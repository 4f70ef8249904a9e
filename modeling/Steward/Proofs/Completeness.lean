/-
A comparison leaves nothing out. Where no step is left, every setting that the user wrote has its value
and every declared network device is there; and once the steps of a comparison have been carried out,
none is left. What the user did not write is not promised: a default may face a default.
-/
import Mathlib
import Steward.Proofs.Resume

namespace Steward

/-! ## What the user wrote -/

/-- The settings of both kinds of instances: `found` has what `doc` writes. -/
structure Document.ReadsBack (doc : Document) (want found : Config) : Prop where
  name : doc.name.isSome = true → found.name.value = want.name.value
  description : doc.description.isSome = true → found.description.value = want.description.value
  tags : doc.tags.isSome = true → found.tags.value = want.tags.value
  onBoot : doc.onBoot.isSome = true → found.onBoot.value = want.onBoot.value
  protection : doc.protection.isSome = true → found.protection.value = want.protection.value
  startup : (∃ s ∈ doc.startup, s.isEmpty = false) → found.startup.value = want.startup.value
  template : doc.template = some true → found.template.value = true
  cores : (doc.cpu.getD {}).cores.isSome = true → found.cpu.value.cores.value = want.cpu.value.cores.value
  units : (doc.cpu.getD {}).units.isSome = true → found.cpu.value.units.value = want.cpu.value.units.value
  limit : (doc.cpu.getD {}).limit.isSome = true → found.cpu.value.limit.value = want.cpu.value.limit.value
  dedicated : (doc.memory.getD {}).dedicated.isSome = true →
    found.memory.value.dedicated.value = want.memory.value.dedicated.value
  floating : (doc.memory.getD {}).floating.isSome = true →
    found.memory.value.floating.value = want.memory.value.floating.value

/-- The settings that only virtual machines have. -/
structure Document.MachineReadsBack (doc : Document) (want found : Config) : Prop where
  sockets : (doc.cpu.getD {}).sockets.isSome = true →
    found.cpu.value.sockets.value = want.cpu.value.sockets.value
  architecture : (doc.cpu.getD {}).architecture.isSome = true →
    found.cpu.value.architecture.value = want.cpu.value.architecture.value
  emulation : (doc.cpu.getD {}).emulation.isSome = true →
    found.cpu.value.emulation.value = want.cpu.value.emulation.value
  flags : (doc.cpu.getD {}).flags.isSome = true → found.cpu.value.flags.value = want.cpu.value.flags.value
  /-- Zero counts as none. -/
  hotplugged : (doc.cpu.getD {}).hotplugged.isSome = true →
    found.cpu.value.hotplugCount = want.cpu.value.hotplugCount
  numa : (doc.cpu.getD {}).numa.isSome = true → found.cpu.value.numa.value = want.cpu.value.numa.value
  shared : (doc.memory.getD {}).shared.isSome = true →
    found.memory.value.shared.value = want.memory.value.shared.value
  bios : doc.bios.isSome = true → found.bios.value = want.bios.value
  machine : doc.machine.isSome = true → found.machine.value = want.machine.value
  keyboard : doc.keyboard.isSome = true → found.keyboard.value = want.keyboard.value
  osType : doc.system.isSome = true → found.osType.value = want.osType.value
  acpi : doc.acpi.isSome = true → found.acpi.value = want.acpi.value
  tablet : doc.tablet.isSome = true → found.tablet.value = want.tablet.value
  scsiHardware : doc.scsiHardware.isSome = true → found.scsiHardware.value = want.scsiHardware.value
  agent : doc.agent.getD {} ≠ {} → found.agent.value = want.agent.value
  bootOrder : doc.bootOrder.isSome = true → found.bootOrder.value = want.bootOrder.value

def Config.addresses (c : Config) (slot : Nat) : IpConfig :=
  (((c.cloudInit.map (·.ipConfigs)).getD [])[slot]?).getD .none

/-- Network slots: each declared device is there, and no other one. -/
structure Config.NetworksReadBack (kind : Kind) (want found : Config) : Prop where
  declared : ∀ (slot : Nat) (nic : Nic), want.nics.value[slot]? = some nic → nic.enabled = true →
    ∃ seen, found.nics.value[slot]? = some seen ∧ nic.satisfiedBy seen = true
  /-- Addresses are part of a container's slots, where first-boot settings are declared. -/
  addresses : kind = .container → want.cloudInit.isSome = true →
    ∀ (slot : Nat) (nic : Nic), want.nics.value[slot]? = some nic → nic.enabled = true →
      found.addresses slot = want.addresses slot
  others : ∀ (slot : Nat) (seen : Nic), found.nics.value[slot]? = some seen → seen.enabled = true →
    ∃ nic, want.nics.value[slot]? = some nic ∧ nic.enabled = true

/-- Everything that the user wrote is there. -/
structure Document.Reached (doc : Document) (desired : Desired) (found : Config) : Prop where
  settings : doc.ReadsBack desired.config found
  machine : desired.kind = .vm → doc.MachineReadsBack desired.config found
  networks : doc.nics.isSome = true → desired.config.NetworksReadBack desired.kind found

namespace Plan

/-! ## Where no step is left -/

variable {ctx : DiffContext} {want found : Config}

/-- A setting that does not come from the policy is found as it is wanted. -/
def Settled {α : Type} (want found : Setting α) : Prop := want.origin = .explicit → found.value = want.value

theorem settled_of_intent?_eq_none {α : Type} [DecidableEq α] {field param : String} {restart : Bool}
    {want found : Setting α} {encode : α → Option String}
    (h : (ctx.compare field param restart want found encode).intent? = none) : Settled want found := by
  intro hw
  have hd : ctx.differs want found = false := Comparison.intent?_eq_none_iff.1 h
  have hpolicy : want.isPolicy = false := by rw [Setting.isPolicy, hw]; rfl
  have heq : want.value = found.value := by
    simpa [DiffContext.differs, DiffContext.inherits, Setting.differsFrom, hpolicy] using hd
  exact heq.symm

theorem origin_declared {α : Type} {written : Option α} (h : written.isSome = true) (default : α) :
    (Setting.declared written default).origin = .explicit := by
  obtain ⟨value, rfl⟩ := Option.isSome_iff_exists.1 h
  rfl

theorem origin_declared_map {α β : Type} {written : Option α} (h : written.isSome = true) (f : α → β)
    (default : β) :
    (Setting.declared (written.map f) default).origin = .explicit :=
  origin_declared (by simpa using h) default

/-- Of two settings in one parameter it is enough that one was written. -/
theorem origin_zip {α β : Type} {a : Setting α} {b : Setting β}
    (h : a.origin = .explicit ∨ b.origin = .explicit) :
    (a.zip b).origin = .explicit := by
  rw [Setting.zip]
  split <;> simp_all

/-- A block of which anything is written is not left out. -/
theorem ne_of_isSome {α β : Type} {block empty : α} (f : α → Option β) (hf : f empty = none)
    (h : (f block).isSome = true) : block ≠ empty := by
  rintro rfl
  simp [hf] at h

theorem general_settled (h : (generalComparisons ctx want found).filterMap Comparison.intent? = []) :
    Settled want.name found.name ∧ Settled want.description found.description ∧ Settled want.tags found.tags ∧
      Settled want.onBoot found.onBoot ∧ Settled want.protection found.protection ∧
      Settled want.startup found.startup := by
  have hall := List.filterMap_eq_nil_iff.1 h
  simp only [generalComparisons, List.forall_mem_cons] at hall
  obtain ⟨hname, hdescription, htags, honBoot, hprotection, hstartup, -⟩ := hall
  exact ⟨settled_of_intent?_eq_none hname, settled_of_intent?_eq_none hdescription,
    settled_of_intent?_eq_none htags, settled_of_intent?_eq_none honBoot,
    settled_of_intent?_eq_none hprotection, settled_of_intent?_eq_none hstartup⟩

/-- The processor's settings that both kinds of instances have. -/
theorem cpu_settled (h : (cpuComparisons ctx want found).filterMap Comparison.intent? = [])
    (hw : ctx.inherits want.cpu = false) :
    Settled want.cpu.value.cores found.cpu.value.cores ∧ Settled want.cpu.value.units found.cpu.value.units ∧
      Settled want.cpu.value.limit found.cpu.value.limit := by
  have hall := List.filterMap_eq_nil_iff.1 h
  simp only [cpuComparisons, hw, Bool.false_eq_true, if_false, List.forall_mem_append,
    List.forall_mem_cons] at hall
  obtain ⟨⟨hcores, hunits, hlimit, -⟩, -⟩ := hall
  exact ⟨settled_of_intent?_eq_none hcores, settled_of_intent?_eq_none hunits,
    settled_of_intent?_eq_none hlimit⟩

theorem vmCpu_settled (hvm : ctx.kind = .vm)
    (h : (cpuComparisons ctx want found).filterMap Comparison.intent? = [])
      (hw : ctx.inherits want.cpu = false) :
    Settled want.cpu.value.sockets found.cpu.value.sockets ∧
      Settled want.cpu.value.architecture found.cpu.value.architecture ∧
      Settled (emulation want.cpu.value) (emulation found.cpu.value) ∧
      Settled (hotplug want.cpu.value) (hotplug found.cpu.value) ∧
      Settled want.cpu.value.numa found.cpu.value.numa := by
  have hall := List.filterMap_eq_nil_iff.1 h
  simp only [cpuComparisons, hw, Bool.false_eq_true, if_false, hvm, beq_self_eq_true, if_true,
    List.forall_mem_append, List.forall_mem_cons] at hall
  obtain ⟨-, hsockets, harchitecture, hemulation, hhotplug, hnuma, -⟩ := hall
  exact ⟨settled_of_intent?_eq_none hsockets, settled_of_intent?_eq_none harchitecture,
    settled_of_intent?_eq_none hemulation, settled_of_intent?_eq_none hhotplug,
    settled_of_intent?_eq_none hnuma⟩

theorem memory_settled (h : (memoryComparisons ctx want found).filterMap Comparison.intent? = [])
    (hw : ctx.inherits want.memory = false) :
    Settled want.memory.value.dedicated found.memory.value.dedicated ∧
      Settled want.memory.value.floating found.memory.value.floating ∧
      (ctx.kind = .vm → Settled want.memory.value.shared found.memory.value.shared) := by
  have hall := List.filterMap_eq_nil_iff.1 h
  simp only [memoryComparisons, hw, Bool.false_eq_true, if_false, List.forall_mem_append,
    List.forall_mem_cons] at hall
  obtain ⟨⟨hdedicated, hfloating, -⟩, hshared⟩ := hall
  refine ⟨settled_of_intent?_eq_none hdedicated, settled_of_intent?_eq_none hfloating, fun hvm => ?_⟩
  simp only [hvm, beq_self_eq_true, if_true, List.forall_mem_cons] at hshared
  exact settled_of_intent?_eq_none hshared.1

theorem machine_settled (h : (machineComparisons ctx want found).filterMap Comparison.intent? = []) :
    Settled want.bios found.bios ∧ Settled want.machine found.machine ∧ Settled want.keyboard found.keyboard ∧
      Settled want.osType found.osType ∧ Settled want.acpi found.acpi ∧ Settled want.tablet found.tablet ∧
      Settled want.scsiHardware found.scsiHardware ∧ Settled want.agent found.agent ∧
      Settled want.bootOrder found.bootOrder := by
  have hall := List.filterMap_eq_nil_iff.1 h
  simp only [machineComparisons, List.forall_mem_append, List.forall_mem_cons] at hall
  obtain ⟨⟨hbios, hmachine, hkeyboard, hosType, hacpi, htablet, hscsi, hagent, -⟩, hboot⟩ := hall
  refine ⟨settled_of_intent?_eq_none hbios, settled_of_intent?_eq_none hmachine,
    settled_of_intent?_eq_none hkeyboard,
    settled_of_intent?_eq_none hosType, settled_of_intent?_eq_none hacpi, settled_of_intent?_eq_none htablet,
    settled_of_intent?_eq_none hscsi, settled_of_intent?_eq_none hagent, fun hw => ?_⟩
  have hpolicy : want.bootOrder.isPolicy = false := by rw [Setting.isPolicy, hw]; rfl
  simp only [bootOrderComparisons, hpolicy, Bool.false_and, Bool.false_eq_true, if_false,
    List.forall_mem_cons] at hboot
  exact settled_of_intent?_eq_none hboot.1 hw

theorem template_settled (h : templateIntents ctx want found = []) (hw : want.template = .explicit true) :
    found.template.value = true := by
  by_contra hne
  have hfound : found.template.value = false := Bool.eq_false_of_not_eq_true hne
  rw [templateIntents, hw] at h
  simp [DiffContext.differs, DiffContext.inherits, Setting.differsFrom, Setting.isPolicy,
    Setting.explicit, hfound] at h

theorem intents_eq_nil_iff :
    (diffConfig ctx want found).intents = [] ↔
      (generalComparisons ctx want found).filterMap Comparison.intent? = [] ∧
      templateIntents ctx want found = [] ∧
      (cpuComparisons ctx want found).filterMap Comparison.intent? = [] ∧
      (memoryComparisons ctx want found).filterMap Comparison.intent? = [] ∧
      (ctx.kind = .vm → (machineComparisons ctx want found).filterMap Comparison.intent? = []) ∧
      networkIntents ctx want found = [] := by
  simp only [diffConfig, hardwareComparisons, List.filterMap_append, List.append_eq_nil_iff]
  by_cases hvm : ctx.kind = .vm <;> simp [hvm] <;> tauto

theorem exists_satisfied_of_slotIntent? {rules : SlotRules} {slot : Nat} {nic : Nic} {seen : Option Nic}
    (he : nic.enabled = true) (h : slotIntent? rules slot nic seen = none) :
    ∃ found, seen = some found ∧ rules.satisfied slot nic found = true := by
  unfold slotIntent? at h
  split at h
  · simp_all
  · simp_all
  · cases h
  · split at h
    · exact ⟨_, rfl, ‹_›⟩
    · cases h

/-- What satisfies a slot is the wanted device, and for a container has the wanted addresses. -/
theorem satisfied_slotRules {slot : Nat} {nic seen : Nic}
    (h : (slotRules ctx want found).satisfied slot nic seen = true) :
    nic.satisfiedBy seen = true ∧
      (ctx.kind = .container → want.cloudInit.isSome = true →
      found.addresses slot = want.addresses slot) := by
  rw [slotRules] at h
  cases hk : ctx.kind with
  | vm =>
    rw [hk] at h
    exact ⟨h, fun hc => by cases hc⟩
  | container =>
    rw [hk] at h
    obtain ⟨hnic, haddresses⟩ := Bool.and_eq_true_iff.1 h
    refine ⟨hnic, fun _ hsome => ?_⟩
    obtain ⟨init, hinit⟩ := Option.isSome_iff_exists.1 hsome
    have heq := eq_of_beq haddresses
    simpa [hinit, Config.addresses] using heq.symm

theorem networksReadBack_of_nil (hw : want.nics.isPolicy = false) (hwant : want.nics.value.length ≤ maxNics)
    (hfound : found.nics.value.length ≤ maxNics) (h : networkIntents ctx want found = []) :
    want.NetworksReadBack ctx.kind found := by
  have hslots : ∀ slot < maxNics, slotStep? (slotRules ctx want found) slot want.nics.value[slot]?
      ((found.nics.value[slot]?).filter Nic.enabled) = none := by
    intro slot hslot
    rw [networkIntents, nicIntents, if_neg (by simp [hw]), slotIntents_eq _ hwant hfound] at h
    exact List.filterMap_eq_nil_iff.1 h slot (List.mem_range.2 hslot)
  have hdeclared : ∀ (slot : Nat) (nic : Nic), want.nics.value[slot]? = some nic → nic.enabled = true →
      ∃ seen, found.nics.value[slot]? = some seen ∧ (slotRules ctx want found).satisfied slot nic seen =
        true := by
    intro slot nic hnic he
    have hlt : slot < want.nics.value.length := (List.getElem?_eq_some_iff.1 hnic).1
    have hstep := hslots slot (by omega)
    rw [hnic] at hstep
    obtain ⟨seen, hseen, hsatisfied⟩ := exists_satisfied_of_slotIntent? he hstep
    exact ⟨seen, (Option.filter_eq_some_iff.1 hseen).1, hsatisfied⟩
  refine ⟨fun slot nic hnic he => ?_, fun hk hinit slot nic hnic he => ?_, fun slot seen hseen he => ?_⟩
  · obtain ⟨seen, hseen, hsatisfied⟩ := hdeclared slot nic hnic he
    exact ⟨seen, hseen, (satisfied_slotRules hsatisfied).1⟩
  · obtain ⟨seen, -, hsatisfied⟩ := hdeclared slot nic hnic he
    exact (satisfied_slotRules hsatisfied).2 hk hinit
  · have hlt : slot < found.nics.value.length := (List.getElem?_eq_some_iff.1 hseen).1
    have hstep := hslots slot (by omega)
    rw [hseen, Option.filter_some, if_pos he] at hstep
    cases hnic : want.nics.value[slot]? with
    | none => simp [hnic, slotStep?] at hstep
    | some nic =>
      refine ⟨nic, rfl, ?_⟩
      by_contra hdisabled
      simp [hnic, slotStep?, slotIntent?, Bool.eq_false_of_not_eq_true hdisabled] at hstep

section Written

variable {policy : Policy} {doc : Document} {system : Option OperatingSystem} {disks : Dict Disk}
  {nics : Setting (List Nic)} {cloudInit : Option CloudInit}

theorem not_inherits_cpu (h : doc.cpu.getD {} ≠ {}) : ctx.inherits (doc.cpuOf policy) = false := by
  simp [DiffContext.inherits, Setting.isPolicy, Document.cpuOf, h]

theorem not_inherits_memory (h : doc.memory.getD {} ≠ {}) : ctx.inherits (doc.memoryOf policy) = false := by
  simp [DiffContext.inherits, Setting.isPolicy, Document.memoryOf, h]

theorem readsBack_of_nil (h : (diffConfig ctx (doc.configOf policy system disks nics cloudInit)
    found).intents = []) :
    doc.ReadsBack (doc.configOf policy system disks nics cloudInit) found := by
  obtain ⟨hgeneral, htemplate, hcpu, hmemory, -, -⟩ := intents_eq_nil_iff.1 h
  obtain ⟨hname, hdescription, htags, honBoot, hprotection, hstartup⟩ := general_settled hgeneral
  have hcpu := fun hb => cpu_settled hcpu (not_inherits_cpu hb)
  have hmemory := fun hb => memory_settled hmemory (not_inherits_memory hb)
  exact
    { name := fun hw => hname (origin_declared hw _)
      description := fun hw => hdescription (origin_declared_map hw _ _)
      tags := fun hw => htags (origin_declared_map hw _ _)
      onBoot := fun hw => honBoot (origin_declared hw _)
      protection := fun hw => hprotection (origin_declared hw _)
      startup := fun ⟨s, hs, he⟩ => hstartup (origin_declared (by
        obtain hs : doc.startup = some s := hs
        simp [hs, Option.filter_some, he]) _)
      template := fun hw => template_settled htemplate
        (by simp [Document.configOf, hw, Setting.declared, Setting.explicit])
      cores := fun hw => (hcpu (ne_of_isSome (·.cores) rfl hw)).1 (origin_declared hw _)
      units := fun hw => (hcpu (ne_of_isSome (·.units) rfl hw)).2.1 (origin_declared hw _)
      limit := fun hw => (hcpu (ne_of_isSome (·.limit) rfl hw)).2.2 (origin_declared hw _)
      dedicated := fun hw => (hmemory (ne_of_isSome (·.dedicated) rfl hw)).1 (origin_declared hw _)
      floating := fun hw => (hmemory (ne_of_isSome (·.floating) rfl hw)).2.1 (origin_declared hw _) }

theorem machineReadsBack_of_nil (hvm : ctx.kind = .vm)
    (hsystem : doc.system.isSome = true → system.isSome = true)
    (h : (diffConfig ctx (doc.configOf policy system disks nics cloudInit) found).intents = []) :
    doc.MachineReadsBack (doc.configOf policy system disks nics cloudInit) found := by
  obtain ⟨-, -, hcpu, hmemory, hmachine, -⟩ := intents_eq_nil_iff.1 h
  obtain ⟨hbios, hmachine, hkeyboard, hosType, hacpi, htablet, hscsi, hagent, hboot⟩ :=
    machine_settled (hmachine hvm)
  have hcpu := fun hb => vmCpu_settled hvm hcpu (not_inherits_cpu hb)
  have hmemory := fun hb => memory_settled hmemory (not_inherits_memory hb)
  exact
    { sockets := fun hw => (hcpu (ne_of_isSome (·.sockets) rfl hw)).1 (origin_declared hw _)
      architecture := fun hw => (hcpu (ne_of_isSome (·.architecture) rfl hw)).2.1 (origin_declared hw _)
      emulation := fun hw => congrArg Prod.fst
        ((hcpu (ne_of_isSome (·.emulation) rfl hw)).2.2.1 (origin_zip (.inl (origin_declared hw _))))
      flags := fun hw => congrArg Prod.snd
        ((hcpu (ne_of_isSome (·.flags) rfl hw)).2.2.1 (origin_zip (.inr (origin_declared hw _))))
      hotplugged := fun hw => (hcpu (ne_of_isSome (·.hotplugged) rfl hw)).2.2.2.1
        (origin_declared_map hw some none)
      numa := fun hw => (hcpu (ne_of_isSome (·.numa) rfl hw)).2.2.2.2 (origin_declared hw _)
      shared := fun hw => (hmemory (ne_of_isSome (·.shared) rfl hw)).2.2 hvm (origin_declared hw _)
      bios := fun hw => hbios (origin_declared hw _)
      machine := fun hw => hmachine (origin_declared hw _)
      keyboard := fun hw => hkeyboard (origin_declared hw _)
      osType := fun hw => hosType (origin_declared_map (hsystem hw) _ _)
      acpi := fun hw => hacpi (origin_declared hw _)
      tablet := fun hw => htablet (origin_declared hw _)
      scsiHardware := fun hw => hscsi (origin_declared hw _)
      agent := fun hw => hagent (by simp [Document.configOf, Document.agentOf, hw])
      bootOrder := fun hw => hboot (origin_declared hw _) }

end Written

/-- Once the steps of a comparison have been carried out, the instance can be observed and everything that
the user wrote is there. -/
theorem diff_complete {policy : Policy} {doc : Document} {desired : Desired} {remote : Remote}
    {identity : Identity}
    {status : Status} {observed : Observed} (copied : Bool) (hd : doc.desired policy = .ok desired)
    (hw : desired.config.Writable desired.kind) (hk : identity.kind = desired.kind)
    (ho : remote.observe identity status = .ok observed) :
    ∃ after, (remote.applyAll (passDiff desired observed copied).intents).observe identity status =
      .ok after ∧ doc.Reached desired after.config := by
  obtain ⟨after, hafter, hnil⟩ := passDiff_applyAll_self copied hd hw hk ho
  have hdeclared := Document.config_declared hd
  rw [passDiff_eq hafter] at hnil
  obtain ⟨-, -, system, disks, nics, cloudInit, hsystem, -, hnics, -, rfl⟩ := Document.desired_eq_ok_iff.1 hd
  refine ⟨after, hafter, readsBack_of_nil hnil, fun hvm => ?_, fun hwritten => ?_⟩
  · exact machineReadsBack_of_nil (hk.trans hvm) (Document.isSome_of_operatingSystem hsystem) hnil
  · have horigin := (Document.nicsOf_spec hnics).2.1 hwritten
    have hpolicy : nics.isPolicy = false := by rw [Setting.isPolicy, horigin]; rfl
    rw [← hk]
    exact networksReadBack_of_nil hpolicy hdeclared.nics (Remote.length_nics_le hafter)
      (intents_eq_nil_iff.1 hnil).2.2.2.2.2

theorem diff_complete_webServer : ∃ desired observed, webServer.desired {} = .ok desired ∧
    desired.config.Writable desired.kind ∧
    webServerFound.observe ⟨"pve1", 100, .vm⟩ ⟨.stopped, none⟩ = .ok observed ∧
    ∃ after, (webServerFound.applyAll (passDiff desired observed true).intents).observe ⟨"pve1", 100, .vm⟩
        ⟨.stopped, none⟩ = .ok after ∧ webServer.Reached desired after.config := by
  obtain ⟨desired, hd⟩ : ∃ desired, webServer.desired {} = .ok desired := ⟨_, rfl⟩
  obtain ⟨observed, ho⟩ : ∃ observed, webServerFound.observe ⟨"pve1", 100, .vm⟩ ⟨.stopped, none⟩ =
    .ok observed :=
    ⟨_, rfl⟩
  have hkind : desired.kind = .vm := by cases hd; rfl
  have hw : desired.config.Writable desired.kind := by
    cases hd
    exact ⟨by decide +kernel, by decide +kernel, by decide, by decide, by decide, by decide, by decide⟩
  exact ⟨desired, observed, hd, hw, ho, diff_complete true hd hw hkind.symm ho⟩

/-! ## Texts that are lost -/

/-- Not all that a document writes is there when the steps for it have been carried out. -/
def Missed (doc : Document) : Prop :=
  ∃ desired observed, doc.desired {} = .ok desired ∧
    Remote.observe .empty ⟨"pve1", 100, doc.kind⟩ ⟨.stopped, none⟩ = .ok observed ∧
    ∀ after, (Remote.applyAll .empty (passDiff desired observed false).intents).observe
      ⟨"pve1", 100, doc.kind⟩ ⟨.stopped, none⟩ = .ok after → ¬doc.Reached desired after.config

def bareMachine : Document where
  node := "pve1"
  system := some { osType := some "l26" }

def bareContainer : Document where
  node := "pve1"
  kind := .container
  system := some { osType := some "debian", template := some "local:vztmpl/debian.tar" }
  nics := some [{}]

/-- Texts that hold a separator of their notation are read back as something else, as is a device without a
model or with a rate that is no number. -/
theorem missed_separators :
    Missed { bareMachine with tags := some ["a;b"] } ∧
    Missed { bareMachine with cpu := some { emulation := some "host,x" } } ∧
    Missed { bareMachine with cpu := some { flags := some ["x;y"] } } ∧
    Missed { bareMachine with agent := some { channel := some "a,b" } } ∧
    Missed { bareMachine with bootOrder := some ["net0;net1"] } ∧
    Missed { bareMachine with nics := some [{ bridge := some "vmbr0,tag=5" }] } ∧
    Missed { bareMachine with nics := some [{ model := some "" }] } ∧
    Missed { bareMachine with nics := some [{ rate := some .nan }] } ∧
    Missed { bareContainer with init := some { ipConfigs :=
  [{ ipv4 := some { address := some "dhcp,gw=x" } }] } } := by
  refine ⟨⟨_, _, rfl, rfl, ?_⟩, ⟨_, _, rfl, rfl, ?_⟩, ⟨_, _, rfl, rfl, ?_⟩, ⟨_, _, rfl, rfl, ?_⟩,
    ⟨_, _, rfl, rfl, ?_⟩,
    ⟨_, _, rfl, rfl, ?_⟩, ⟨_, _, rfl, rfl, ?_⟩, ⟨_, _, rfl, rfl, ?_⟩, ⟨_, _, rfl, rfl, ?_⟩⟩
  · rintro _ ⟨⟩ h
    exact absurd (h.settings.tags rfl) (by decide +kernel)
  · rintro _ ⟨⟩ h
    exact absurd ((h.machine rfl).emulation rfl) (by decide +kernel)
  · rintro _ ⟨⟩ h
    exact absurd ((h.machine rfl).flags rfl) (by decide +kernel)
  · rintro _ ⟨⟩ h
    exact absurd ((h.machine rfl).agent (by decide)) (by decide +kernel)
  · rintro _ ⟨⟩ h
    exact absurd ((h.machine rfl).bootOrder rfl) (by decide +kernel)
  · rintro _ ⟨⟩ h
    obtain ⟨seen, hseen, hsatisfied⟩ := (h.networks rfl).declared 0 _ rfl rfl
    cases hseen
    exact absurd hsatisfied (by decide +kernel)
  · -- the device that was written cannot be read any more
    rintro _ hobserved
    cases hobserved
  · rintro _ ⟨⟩ h
    obtain ⟨seen, hseen, hsatisfied⟩ := (h.networks rfl).declared 0 _ rfl rfl
    cases hseen
    exact absurd hsatisfied (by decide +kernel)
  · rintro _ ⟨⟩ h
    exact absurd ((h.networks rfl).addresses rfl rfl 0 _ rfl rfl) (by decide +kernel)

end Plan

end Steward
