/-
What a copy keeps of what it inherited. A setting that the document leaves out counts as the policy's, and
after a copy such a setting is not compared, so no step of a pass names its parameter. Two things are not
decided that way: the type of the operating system is taken from the policy as if it had been written, as
soon as the block around it is there; and first-boot settings are compared without a look at where the
instance comes from, so a block that is there and empty clears what the copy reports.
-/
import Mathlib
import Steward.Proofs.SlotConflict

namespace Steward

/-! ## What a document leaves out -/

namespace Document

/-- Whether a document says nothing about the setting behind a parameter of a virtual machine: it is not
written, or the block that it belongs to is absent or empty. -/
def leavesOut (doc : Document) : String → Bool
  | "name" => doc.name.isNone
  | "description" => doc.description.isNone
  | "tags" => doc.tags.isNone
  | "onboot" => doc.onBoot.isNone
  | "protection" => doc.protection.isNone
  | "startup" => doc.startup.all Startup.isEmpty
  | "template" => doc.template.isNone
  | "cores" => (doc.cpu.getD {}).cores.isNone
  | "cpuunits" => (doc.cpu.getD {}).units.isNone
  | "cpulimit" => (doc.cpu.getD {}).limit.isNone
  | "sockets" => (doc.cpu.getD {}).sockets.isNone
  | "arch" => (doc.cpu.getD {}).architecture.isNone
  | "cpu" => (doc.cpu.getD {}).emulation.isNone && (doc.cpu.getD {}).flags.isNone
  | "vcpus" => (doc.cpu.getD {}).hotplugged.isNone
  | "numa" => (doc.cpu.getD {}).numa.isNone
  | "memory" => (doc.memory.getD {}).dedicated.isNone
  | "balloon" => (doc.memory.getD {}).floating.isNone
  | "ivshmem" => (doc.memory.getD {}).shared.isNone
  | "bios" => doc.bios.isNone
  | "machine" => doc.machine.isNone
  | "keyboard" => doc.keyboard.isNone
  | "ostype" => (doc.system.bind (·.osType)).isNone
  | "acpi" => doc.acpi.isNone
  | "tablet" => doc.tablet.isNone
  | "scsihw" => doc.scsiHardware.isNone
  | "agent" => doc.agent.getD {} == {}
  | "boot" => doc.bootOrder.isNone
  | "ciuser" | "cipassword" | "sshkeys" => (doc.init.bind (·.account)).all (· == ⟨none, none, []⟩)
  | "searchdomain" | "nameserver" => (doc.init.bind (·.resolver)).all (· == ⟨none, []⟩)
  | _ => false

/-- The parameters about which a document of a virtual machine says nothing. -/
inductive LeftOut (doc : Document) : String → Prop
  | named {param : String} (h : doc.leavesOut param = true) : LeftOut doc param
  | network (slot : Nat) (h : doc.nics = none) : LeftOut doc (nicSlot slot)
  | address (n : Nat) (h : (doc.init.map (·.ipConfigs)).getD [] = []) : LeftOut doc (IpConfig.slot n)

/-- The parameters that are not numbered. -/
def namedParams : List String :=
  Plan.settingParams .vm ++ ["ciuser", "cipassword", "sshkeys", "searchdomain", "nameserver"]

theorem nicSlot_not_mem_namedParams (slot : Nat) : nicSlot slot ∉ namedParams := fun h =>
  (by decide : ∀ param ∈ namedParams, param.toList.take 3 ≠ "net".toList) _ h (take_nicSlot slot)

theorem ipconfigSlot_not_mem_namedParams (n : Nat) : IpConfig.slot n ∉ namedParams := fun h =>
  (by decide : ∀ param ∈ namedParams, param.toList.take 8 ≠ "ipconfig".toList) _ h (Plan.take_ipconfigSlot n)

theorem nicSlot_ne_ipconfigSlot (slot n : Nat) : nicSlot slot ≠ IpConfig.slot n := by
  intro h
  have hhead : (nicSlot slot).toList.head? = (IpConfig.slot n).toList.head? := by rw [h]
  rw [nicSlot, IpConfig.slot, String.toList_append, String.toList_append] at hhead
  cases hhead

variable {doc : Document} {param : String}

theorem mem_namedParams_of_leavesOut (h : doc.leavesOut param = true) : param ∈ namedParams := by
  unfold leavesOut at h
  split at h
  any_goals decide
  cases h

namespace LeftOut

theorem leavesOut (h : doc.LeftOut param) (hp : param ∈ namedParams) : doc.leavesOut param = true := by
  cases h with
  | named h => exact h
  | network slot => exact absurd hp (nicSlot_not_mem_namedParams slot)
  | address n => exact absurd hp (ipconfigSlot_not_mem_namedParams n)

theorem nics_eq_none {slot : Nat} (h : doc.LeftOut (nicSlot slot)) : doc.nics = none := by
  generalize hp : nicSlot slot = param at h
  cases h with
  | named h => exact absurd (hp ▸ mem_namedParams_of_leavesOut h) (nicSlot_not_mem_namedParams slot)
  | network _ h => exact h
  | address n => exact absurd hp (nicSlot_ne_ipconfigSlot slot n)

theorem addresses_eq_nil {n : Nat} (h : doc.LeftOut (IpConfig.slot n)) :
    (doc.init.map (·.ipConfigs)).getD [] = [] := by
  generalize hp : IpConfig.slot n = param at h
  cases h with
  | named h => exact absurd (hp ▸ mem_namedParams_of_leavesOut h) (ipconfigSlot_not_mem_namedParams n)
  | network slot => exact absurd hp.symm (nicSlot_ne_ipconfigSlot slot n)
  | address _ h => exact h

theorem account_eq (h : doc.LeftOut param) (hp : param ∈ ["ciuser", "cipassword", "sshkeys"]) {a : Account}
    (ha : doc.init.bind (·.account) = some a) : a = ⟨none, none, []⟩ := by
  have hleft : (doc.init.bind (·.account)).all (· == ⟨none, none, []⟩) = true := by
    have hnamed := h.leavesOut ((by decide : ∀ p ∈ ["ciuser", "cipassword", "sshkeys"], p ∈ namedParams) _ hp)
    simp only [List.mem_cons, List.not_mem_nil, or_false] at hp
    rcases hp with rfl | rfl | rfl <;> exact hnamed
  rw [ha] at hleft
  exact beq_iff_eq.1 hleft

theorem resolver_eq (h : doc.LeftOut param) (hp : param ∈ ["searchdomain", "nameserver"]) {r : Resolver}
    (hr : doc.init.bind (·.resolver) = some r) : r = ⟨none, []⟩ := by
  have hleft : (doc.init.bind (·.resolver)).all (· == ⟨none, []⟩) = true := by
    have hnamed := h.leavesOut ((by decide : ∀ p ∈ ["searchdomain", "nameserver"], p ∈ namedParams) _ hp)
    simp only [List.mem_cons, List.not_mem_nil, or_false] at hp
    rcases hp with rfl | rfl <;> exact hnamed
  rw [hr] at hleft
  exact beq_iff_eq.1 hleft

theorem not_isDriveSlot (h : doc.LeftOut param) : ¬IsDriveSlot param := by
  cases h with
  | named h =>
    exact (by decide +kernel : ∀ p ∈ namedParams, ¬IsDriveSlot p) param (mem_namedParams_of_leavesOut h)
  | network slot => exact not_isDriveSlot_nicSlot slot
  | address n => exact not_isDriveSlot_ipconfig n

end LeftOut

end Document

/-! ## Settings that are inherited -/

section Settings

variable {ctx : DiffContext}

theorem DiffContext.inherits_declared {α : Type} (hc : ctx.copied = true) {written : Option α}
    (h : written = none) (default : α) : ctx.inherits (.declared written default) = true := by
  rw [inherits, hc, h]
  rfl

section Rule

variable {α : Type} [DecidableEq α] {field param : String} {restart : Bool}
  {read : Option Json → Setting α} {encode : α → Option String}

/-- A setting that is inherited leads to no step, whatever its parameter holds. -/
theorem DiffContext.step_rule_of_inherits {want : Setting α} (h : ctx.inherits want = true)
    (value : Option Json) : (ctx.rule field param restart want read encode).step value = none := by
  refine Comparison.intent?_eq_none_iff.2 ?_
  simp [compare, differs, h]

theorem DiffContext.step_rule_unwritten (hc : ctx.copied = true) {written : Option α} (h : written = none)
    {default : α} (value : Option Json) :
    (ctx.rule field param restart (.declared written default) read encode).step value = none :=
  step_rule_of_inherits (inherits_declared hc h default) value

end Rule

namespace Plan

variable {policy : Policy} {doc : Document} {system : Option OperatingSystem} {disks : Dict Disk}
  {nics : Setting (List Nic)} {cloudInit : Option CloudInit}

theorem step_generalRules (hc : ctx.copied = true) (hk : ctx.kind = .vm) :
    ∀ r ∈ generalRules ctx (doc.configOf policy system disks nics cloudInit),
      doc.leavesOut r.param = true → ∀ value, r.step value = none := by
  have hkey : ctx.kind.nameKey = "name" := by rw [hk]; rfl
  simp only [generalRules, hkey, List.forall_mem_cons]
  refine ⟨fun h => ctx.step_rule_unwritten hc (Option.isNone_iff_eq_none.1 h),
    fun h => ctx.step_rule_unwritten hc ?_, fun h => ctx.step_rule_unwritten hc ?_,
    fun h => ctx.step_rule_unwritten hc (Option.isNone_iff_eq_none.1 h),
    fun h => ctx.step_rule_unwritten hc (Option.isNone_iff_eq_none.1 h),
    fun h => ctx.step_rule_unwritten hc ?_, by simp⟩
  · rw [Option.isNone_iff_eq_none.1 h, Option.map_none]
  · rw [Option.isNone_iff_eq_none.1 h, Option.map_none]
  · have h : doc.startup.all Startup.isEmpty = true := h
    cases hs : doc.startup <;> simp_all [Option.filter_some]

theorem step_templateRule (hc : ctx.copied = true) (h : doc.leavesOut "template" = true) (value : Option Json) :
    (templateRule ctx (doc.configOf policy system disks nics cloudInit)).step value = none := by
  have hinherits : ctx.inherits (Setting.declared doc.template policy.template) = true :=
    ctx.inherits_declared hc (Option.isNone_iff_eq_none.1 h) _
  simp [templateRule, Document.configOf, DiffContext.differs, hinherits]

theorem step_cpuRules (hc : ctx.copied = true) (hk : ctx.kind = .vm) :
    ∀ r ∈ cpuRules ctx (doc.configOf policy system disks nics cloudInit),
      doc.leavesOut r.param = true → ∀ value, r.step value = none := by
  rw [cpuRules]
  split
  · simp
  · simp only [hk, beq_self_eq_true, if_true, List.cons_append, List.nil_append, List.forall_mem_cons]
    refine ⟨fun h => ctx.step_rule_unwritten hc (Option.isNone_iff_eq_none.1 h),
      fun h => ctx.step_rule_unwritten hc (Option.isNone_iff_eq_none.1 h),
      fun h => ctx.step_rule_unwritten hc (Option.isNone_iff_eq_none.1 h),
      fun h => ctx.step_rule_unwritten hc (Option.isNone_iff_eq_none.1 h),
      fun h => ctx.step_rule_unwritten hc (Option.isNone_iff_eq_none.1 h),
      fun h => ctx.step_rule_of_inherits ?_, fun h => ctx.step_rule_of_inherits ?_,
      fun h => ctx.step_rule_unwritten hc (Option.isNone_iff_eq_none.1 h), by simp⟩
    · -- type and flags share a parameter, and both are left out
      obtain ⟨htype, hflags⟩ := Bool.and_eq_true_iff.1 h
      simp [emulation, Document.configOf, Document.cpuOf, Option.isNone_iff_eq_none.1 htype,
        Option.isNone_iff_eq_none.1 hflags, Setting.declared, Setting.zip, DiffContext.inherits, hc,
        Setting.isPolicy]
    · simp [hotplug, Document.configOf, Document.cpuOf, Option.isNone_iff_eq_none.1 h, Setting.declared,
        Setting.map, DiffContext.inherits, hc, Setting.isPolicy]

theorem step_memoryRules (hc : ctx.copied = true) (hk : ctx.kind = .vm) :
    ∀ r ∈ memoryRules ctx (doc.configOf policy system disks nics cloudInit),
      doc.leavesOut r.param = true → ∀ value, r.step value = none := by
  have hkey : ctx.kind.floatingKey = "balloon" := by rw [hk]; rfl
  rw [memoryRules]
  split
  · simp
  · simp only [hk, beq_self_eq_true, if_true, List.cons_append, List.nil_append, List.forall_mem_cons]
    exact ⟨fun h => ctx.step_rule_unwritten hc (Option.isNone_iff_eq_none.1 h),
      fun h => ctx.step_rule_unwritten hc (Option.isNone_iff_eq_none.1 h),
      fun h => ctx.step_rule_unwritten hc (Option.isNone_iff_eq_none.1 h), by simp⟩

/-- The type of the operating system is left out here: it is the policy's once its block is written. -/
theorem step_machineRules (hc : ctx.copied = true) :
    ∀ r ∈ machineRules ctx (doc.configOf policy system disks nics cloudInit), r.param ≠ "ostype" →
      doc.leavesOut r.param = true → ∀ value, r.step value = none := by
  rw [machineRules, List.forall_mem_append]
  constructor
  · simp only [List.forall_mem_cons]
    refine ⟨fun _ h => ctx.step_rule_unwritten hc (Option.isNone_iff_eq_none.1 h),
      fun _ h => ctx.step_rule_unwritten hc (Option.isNone_iff_eq_none.1 h),
      fun _ h => ctx.step_rule_unwritten hc (Option.isNone_iff_eq_none.1 h),
      fun h => absurd rfl h,
      fun _ h => ctx.step_rule_unwritten hc (Option.isNone_iff_eq_none.1 h),
      fun _ h => ctx.step_rule_unwritten hc (Option.isNone_iff_eq_none.1 h),
      fun _ h => ctx.step_rule_unwritten hc (Option.isNone_iff_eq_none.1 h),
      fun _ h => ctx.step_rule_of_inherits ?_, by simp⟩
    have hempty : doc.agent.getD {} = {} := beq_iff_eq.1 (h : (doc.agent.getD {} == {}) = true)
    simp [Document.configOf, Document.agentOf, hempty, DiffContext.inherits, hc, Setting.isPolicy]
  · rw [bootOrderRules]
    split
    · simp
    · simp only [List.forall_mem_cons]
      exact ⟨fun _ h => ctx.step_rule_unwritten hc (Option.isNone_iff_eq_none.1 h), by simp⟩

/-- Of what is left out, a comparison after a copy changes the type of the operating system at most. -/
theorem step_diffRules (hc : ctx.copied = true) (hk : ctx.kind = .vm) (hn : doc.nicsOf policy = .ok nics)
    {r : ParamRule} (hr : r ∈ diffRules ctx (doc.configOf policy system disks nics cloudInit))
    (hl : doc.LeftOut r.param) (hos : r.param ≠ "ostype") (value : Option Json) : r.step value = none := by
  rcases List.mem_append.1 hr with hr | hr
  · have hparam : r.param ∈ settingParams .vm :=
      hk ▸ (params_settingRules ctx _).subset (List.mem_map_of_mem hr)
    have hleft : doc.leavesOut r.param = true := hl.leavesOut (List.mem_append_left _ hparam)
    simp only [settingRules, hardwareRules, List.mem_append, List.mem_singleton, if_pos hk] at hr
    rcases hr with (hr | rfl) | (hr | hr) | hr
    · exact step_generalRules hc hk r hr hleft value
    · exact step_templateRule hc hleft value
    · exact step_cpuRules hc hk r hr hleft value
    · exact step_memoryRules hc hk r hr hleft value
    · exact step_machineRules hc r hr hos hleft value
  · rw [nicRules] at hr
    split at hr
    · cases hr
    · rename_i hpolicy
      obtain ⟨slot, -, rfl⟩ := List.mem_map.1 hr
      have hnone : doc.nics = none := hl.nics_eq_none
      rw [Document.nicsOf, hnone] at hn
      cases hn
      exact absurd rfl hpolicy

end Plan

end Settings

/-! ## Steps of a comparison after a copy -/

theorem ParamRule.mem_touched_steps {rules : List ParamRule} (hp : ∀ r ∈ rules, r.Names) {remote : Remote}
    {param : String} :
    param ∈ touched (steps rules remote) ↔
      ∃ r ∈ rules, r.param = param ∧ (r.stepIn remote).isSome = true := by
  rw [mem_touched]
  constructor
  · rintro ⟨i, hi, hparam⟩
    obtain ⟨r, hr, hown, hstep⟩ := exists_rule_of_mem_steps hp hi
    exact ⟨r, hr, Option.some.inj (hown.symm.trans hparam), by rw [hstep]; rfl⟩
  · rintro ⟨r, hr, rfl, hsome⟩
    obtain ⟨i, hi⟩ := Option.isSome_iff_exists.1 hsome
    exact ⟨i, List.mem_filterMap.2 ⟨r, hr, hi⟩, hp r hr _ _ hi⟩

namespace Plan

variable {policy : Policy} {doc : Document} {desired : Desired} {remote : Remote} {identity : Identity}
  {status : Status} {observed : Observed} {param : String}

/-- The rule of the operating system's type. -/
def osTypeRule (ctx : DiffContext) (want : Config) : ParamRule :=
  ctx.rule "os_type" "ostype" true want.osType (Remote.readText "other") some

theorem osTypeRule_mem {ctx : DiffContext} {want : Config} (hk : ctx.kind = .vm) :
    osTypeRule ctx want ∈ diffRules ctx want := by
  have hmachine : osTypeRule ctx want ∈ machineRules ctx want := by simp [machineRules, osTypeRule]
  simp [diffRules, settingRules, hardwareRules, hk, hmachine]

theorem isSome_stepIn_osTypeRule {ctx : DiffContext} {want : Config} :
    ((osTypeRule ctx want).stepIn remote).isSome = true ↔
      ctx.differs want.osType (Remote.readText "other" (remote.get? "ostype")) = true := by
  rw [ParamRule.stepIn, osTypeRule, DiffContext.rule]
  dsimp only
  rw [DiffContext.compare, Comparison.intent?]
  dsimp only
  split <;> simp_all

/-- A system without a type is declared with the policy's, as if the document had written it. -/
theorem differs_osType {ctx : DiffContext} {system : Option OperatingSystem} (hc : ctx.copied = true)
    (hclone : doc.clone.isSome = true) (hs : doc.operatingSystem policy = .ok system)
    (hl : doc.leavesOut "ostype" = true) (seen : Setting String) :
    ctx.differs (.declared (system.map (·.osType)) policy.osType) seen = true ↔
      doc.system.isSome = true ∧ seen.value ≠ policy.osType := by
  obtain ⟨clone, hclone⟩ := Option.isSome_iff_exists.1 hclone
  rw [Document.operatingSystem, hclone] at hs
  cases hs
  cases hsystem : doc.system with
  | none => simp [DiffContext.differs, DiffContext.inherits, Setting.declared, Setting.isPolicy, hc]
  | some block =>
    have htype : block.osType = none := by
      have hl : (doc.system.bind (·.osType)).isNone = true := hl
      simpa [hsystem] using hl
    simp only [DiffContext.differs, DiffContext.inherits, Setting.declared, Setting.isPolicy,
      Setting.differsFrom, Option.map_some, htype, Option.getD_none]
    simp [ne_comm]

theorem mem_touched_passDiff_iff (hd : doc.desired policy = .ok desired) (hclone : doc.clone.isSome = true)
    (ho : remote.observe identity status = .ok observed) (hi : identity.kind = .vm) (hl : doc.LeftOut param) :
    param ∈ touched (passDiff desired observed true).intents ↔
      param = "ostype" ∧ doc.system.isSome = true ∧ observed.config.osType.value ≠ policy.osType := by
  obtain ⟨-, -, -, d, hconfig, -, -⟩ := Remote.observe_spec ho
  have hread : observed.config.osType = Remote.readText "other" (remote.get? "ostype") := by
    rw [hconfig]
    rfl
  have hlength := (Document.config_declared hd).nics
  obtain ⟨-, -, system, disks, nics, cloudInit, hsystem, -, hnics, -, rfl⟩ := Document.desired_eq_ok_iff.1 hd
  rw [passDiff_eq ho, intents_diffConfig ho rfl hlength, ParamRule.mem_touched_steps names_diffRules]
  set ctx : DiffContext := ⟨identity.id, identity.kind, true⟩
  set want := doc.configOf policy system disks nics cloudInit
  have hstep (hleft : doc.leavesOut "ostype" = true) :
      ((osTypeRule ctx want).stepIn remote).isSome = true ↔
        doc.system.isSome = true ∧ observed.config.osType.value ≠ policy.osType := by
    rw [isSome_stepIn_osTypeRule, hread]
    exact differs_osType rfl hclone hsystem hleft _
  constructor
  · rintro ⟨r, hr, rfl, hsome⟩
    by_cases hos : r.param = "ostype"
    · have hown : r = osTypeRule ctx want :=
        List.inj_on_of_nodup_map (nodup_params ctx want) hr (osTypeRule_mem hi) hos
      have hleft : doc.leavesOut r.param = true := hl.leavesOut (by rw [hos]; decide)
      rw [hos] at hleft
      exact ⟨hos, (hstep hleft).1 (hown ▸ hsome)⟩
    · rw [ParamRule.stepIn, step_diffRules rfl hi hnics hr hl hos] at hsome
      cases hsome
  · rintro ⟨rfl, hwritten⟩
    exact ⟨osTypeRule ctx want, osTypeRule_mem hi, rfl, (hstep (hl.leavesOut (by decide))).2 hwritten⟩

/-! ## First-boot settings -/

theorem mem_touched_setOrDelete {field name : String} {want found : Option String} :
    param ∈ touched (setOrDelete field name want found) ↔ param = name ∧ want ≠ found := by
  unfold setOrDelete
  split
  · simp_all [touched]
  · cases want <;> simp_all [touched, Intent.update, Intent.delete, Operation.param?]

theorem mem_touched_accountIntents {want : Account} {found : Option Account} :
    param ∈ touched (accountIntents want found) ↔
      (param = "ciuser" ∧ want.name ≠ (found.getD ⟨none, none, []⟩).name) ∨
        (param = "cipassword" ∧ passwordSettled want.password (found.getD ⟨none, none, []⟩).password = false ∧
          want.password ≠ (found.getD ⟨none, none, []⟩).password) ∨
        (param = "sshkeys" ∧
          joined? "\n" want.keys ≠ joined? "\n" (found.getD ⟨none, none, []⟩).keys) := by
  rw [accountIntents, touched_append, touched_append, List.mem_append, List.mem_append,
    mem_touched_setOrDelete, mem_touched_setOrDelete, or_assoc]
  refine or_congr_right (or_congr_left ?_)
  split
  · simp_all [touched]
  · simp_all [mem_touched_setOrDelete]

theorem mem_touched_resolverIntents {want : Resolver} {found : Option Resolver} :
    param ∈ touched (resolverIntents want found) ↔
      (param = "searchdomain" ∧ want.domain ≠ (found.getD ⟨none, []⟩).domain) ∨
        (param = "nameserver" ∧
          joined? " " want.servers ≠ joined? " " (found.getD ⟨none, []⟩).servers) := by
  rw [resolverIntents, touched_append, List.mem_append, mem_touched_setOrDelete, mem_touched_setOrDelete]

theorem mem_touched_ipConfigIntents {want found : List IpConfig} :
    param ∈ touched (ipConfigIntents want found) ↔
      ∃ n, param = IpConfig.slot n ∧ ipConfigText? want[n]? ≠ ipConfigText? found[n]? := by
  have hflat : touched (ipConfigIntents want found) = (List.range (max want.length found.length)).flatMap
      fun n => touched (setOrDelete ("cloud_init.ip_config[" ++ Text.decimal n ++ "]") (IpConfig.slot n)
        (ipConfigText? want[n]?) (ipConfigText? found[n]?)) := List.filterMap_flatMap ..
  simp only [hflat, List.mem_flatMap, List.mem_range, mem_touched_setOrDelete]
  constructor
  · rintro ⟨n, -, h⟩
    exact ⟨n, h⟩
  · rintro ⟨n, hp, hne⟩
    refine ⟨n, Nat.lt_of_not_le fun hle => hne ?_, hp, hne⟩
    rw [List.getElem?_eq_none (by omega), List.getElem?_eq_none (by omega)]

/-! ## The whole pass -/

/-- What is no slot of a drive is changed by the first-boot settings and by the comparison only. -/
theorem mem_touched_planPass_iff {copied : Bool} (hd : doc.desired policy = .ok desired)
    (hk : desired.kind = .vm) (ho : remote.observe identity status = .ok observed) (hi : identity.kind = .vm)
    (hp : ¬IsDriveSlot param) :
    param ∈ touched (planPass desired observed copied).plan.intents ↔
      param ∈ touched (passCloudInit desired observed).updates ∨
        param ∈ touched (passDiff desired observed copied).intents := by
  have hcloud : (passInput desired observed copied).cloudInit = _ := passCloudInit_vm desired ho hi
  simp only [mem_touched]
  constructor
  · rintro ⟨i, hmem, hparam⟩
    rcases mem_changes_iff.1 (mem_changes_of_param? hmem hparam) with h | h | h | h | h | h | h
    · obtain ⟨j, hj, rfl⟩ := h
      rw [hcloud] at hj
      obtain ⟨slot, rfl, hslot⟩ := mem_detach hj
      obtain rfl : slot = param := Option.some.inj hparam
      exact absurd (hslot.elim (isDriveSlot_of_attach hd ho hi) (isDriveSlot_of_detach ho hi)) hp
    · obtain ⟨j, hj, rfl⟩ := h
      rw [hcloud] at hj
      exact absurd (isDriveSlot_of_attach hd ho hi ((mem_attach hj).2.symm.trans hparam)) hp
    · exact .inl ⟨i, h, hparam⟩
    · exact .inr ⟨i, h, hparam⟩
    · have hdisk := (touched_planDisks _ _ _).subset (mem_touched.2 ⟨i, h, hparam⟩)
      exact absurd (isDriveSlot_of_disks hd hk hdisk) hp
    · obtain ⟨j, hj, rfl⟩ := h
      exact absurd ((param?_planDisks (.inl hj)).symm.trans hparam) (by simp)
    · exact absurd ((param?_planDisks (.inr h)).symm.trans hparam) (by simp)
  · rintro (⟨i, hmem, hparam⟩ | ⟨i, hmem, hparam⟩)
    · exact ⟨i, mem_schedule_of_mem_changes (mem_changes_iff.2 (.inr (.inr (.inl hmem)))), hparam⟩
    · exact ⟨i, mem_schedule_of_mem_changes (mem_changes_iff.2 (.inr (.inr (.inr (.inl hmem))))), hparam⟩

end Plan

/-! ## What is lost -/

namespace Observed

variable (o : Observed)

/-- The account that a virtual machine reports beside its generated drive. -/
def account : Account := (o.config.cloudInit.bind (·.account)).getD ⟨none, none, []⟩

def resolver : Resolver := (o.config.cloudInit.bind (·.resolver)).getD ⟨none, []⟩

def addresses : List IpConfig := (o.config.cloudInit.map (·.ipConfigs)).getD []

end Observed

/-- The first-boot parameters that a block clears which is written and says nothing of them. -/
inductive Document.Clears (doc : Document) (observed : Observed) : String → Prop
  | user (h : doc.init.bind (·.account) = some ⟨none, none, []⟩) (hf : observed.account.name ≠ none) :
    Clears doc observed "ciuser"
  | password (h : doc.init.bind (·.account) = some ⟨none, none, []⟩) {shown : String}
      (hf : observed.account.password = some shown) (hm : shown ≠ CloudInit.maskedPassword) :
    Clears doc observed "cipassword"
  | keys (h : doc.init.bind (·.account) = some ⟨none, none, []⟩) (hf : observed.account.keys ≠ []) :
    Clears doc observed "sshkeys"
  | domain (h : doc.init.bind (·.resolver) = some ⟨none, []⟩) (hf : observed.resolver.domain ≠ none) :
    Clears doc observed "searchdomain"
  | servers (h : doc.init.bind (·.resolver) = some ⟨none, []⟩) (hf : observed.resolver.servers ≠ []) :
    Clears doc observed "nameserver"
  | address {block : InitBlock} {n : Nat} (h : doc.init = some block) (hb : block.ipConfigs = [])
      (hf : Plan.ipConfigText? observed.addresses[n]? ≠ none) : Clears doc observed (IpConfig.slot n)

namespace Plan

variable {param : String}

theorem joined?_eq_none_iff {sep : String} {values : List String} : joined? sep values = none ↔ values = [] := by
  cases values <;> simp [joined?]

theorem passwordSettled_none {found : Option String} :
    passwordSettled none found = false ↔ ∃ shown, found = some shown ∧ shown ≠ CloudInit.maskedPassword := by
  cases found <;> simp [passwordSettled]

theorem mem_touched_cloudInitUpdates {want : CloudInit} {found : Option CloudInit} {param : String} :
    param ∈ touched (cloudInitUpdates want found) ↔
      (∃ a, want.account = some a ∧ param ∈ touched (accountIntents a (found.bind (·.account)))) ∨
        (∃ r, want.resolver = some r ∧ param ∈ touched (resolverIntents r (found.bind (·.resolver)))) ∨
        param ∈ touched (ipConfigIntents want.ipConfigs ((found.map (·.ipConfigs)).getD [])) := by
  rw [cloudInitUpdates, touched_append, touched_append, List.mem_append, List.mem_append, or_assoc]
  refine or_congr ?_ (or_congr_left ?_)
  · cases want.account <;> simp [touched]
  · cases want.resolver <;> simp [touched]

/-- An account that says nothing clears what is found. -/
theorem mem_touched_empty_account {found : Option Account} :
    param ∈ touched (accountIntents ⟨none, none, []⟩ found) ↔
      (param = "ciuser" ∧ (found.getD ⟨none, none, []⟩).name ≠ none) ∨
        (param = "cipassword" ∧
          ∃ shown, (found.getD ⟨none, none, []⟩).password = some shown ∧ shown ≠ CloudInit.maskedPassword) ∨
        (param = "sshkeys" ∧ (found.getD ⟨none, none, []⟩).keys ≠ []) := by
  have hkeys : joined? "\n" [] ≠ joined? "\n" (found.getD ⟨none, none, []⟩).keys ↔
      (found.getD ⟨none, none, []⟩).keys ≠ [] := by
    rw [ne_comm, ne_eq, show joined? "\n" [] = none from rfl, joined?_eq_none_iff]
  rw [mem_touched_accountIntents, hkeys, passwordSettled_none, ne_comm]
  refine or_congr_right (or_congr_left (and_congr_right fun _ => and_iff_left_of_imp ?_))
  rintro ⟨shown, hshown, -⟩
  rw [hshown]
  exact (Option.some_ne_none shown).symm

/-- So does a resolver. -/
theorem mem_touched_empty_resolver {found : Option Resolver} :
    param ∈ touched (resolverIntents ⟨none, []⟩ found) ↔
      (param = "searchdomain" ∧ (found.getD ⟨none, []⟩).domain ≠ none) ∨
        (param = "nameserver" ∧ (found.getD ⟨none, []⟩).servers ≠ []) := by
  have hservers : joined? " " [] ≠ joined? " " (found.getD ⟨none, []⟩).servers ↔
      (found.getD ⟨none, []⟩).servers ≠ [] := by
    rw [ne_comm, ne_eq, show joined? " " [] = none from rfl, joined?_eq_none_iff]
  rw [mem_touched_resolverIntents, hservers, ne_comm]

/-- What an empty block clears is what its empty parts touch. -/
theorem clears_iff {doc : Document} {observed : Observed} : doc.Clears observed param ↔
    (doc.init.bind (·.account) = some ⟨none, none, []⟩ ∧
        param ∈ touched (accountIntents ⟨none, none, []⟩ (observed.config.cloudInit.bind (·.account)))) ∨
      (doc.init.bind (·.resolver) = some ⟨none, []⟩ ∧
        param ∈ touched (resolverIntents ⟨none, []⟩ (observed.config.cloudInit.bind (·.resolver)))) ∨
      ∃ block, doc.init = some block ∧ block.ipConfigs = [] ∧
        param ∈ touched (ipConfigIntents [] observed.addresses) := by
  rw [mem_touched_empty_account, mem_touched_empty_resolver, mem_touched_ipConfigIntents]
  constructor
  · intro h
    cases h with
    | user h hf => exact .inl ⟨h, .inl ⟨rfl, hf⟩⟩
    | password h hf hm => exact .inl ⟨h, .inr (.inl ⟨rfl, _, hf, hm⟩)⟩
    | keys h hf => exact .inl ⟨h, .inr (.inr ⟨rfl, hf⟩)⟩
    | domain h hf => exact .inr (.inl ⟨h, .inl ⟨rfl, hf⟩⟩)
    | servers h hf => exact .inr (.inl ⟨h, .inr ⟨rfl, hf⟩⟩)
    | address h hb hf => exact .inr (.inr ⟨_, h, hb, _, rfl, Ne.symm hf⟩)
  · rintro (⟨h, ⟨rfl, hf⟩ | ⟨rfl, shown, hf, hm⟩ | ⟨rfl, hf⟩⟩ | ⟨h, ⟨rfl, hf⟩ | ⟨rfl, hf⟩⟩ |
      ⟨block, h, hb, n, rfl, hf⟩)
    · exact .user h hf
    · exact .password h hf hm
    · exact .keys h hf
    · exact .domain h hf
    · exact .servers h hf
    · exact .address h hb (Ne.symm hf)

/-- The first-boot settings of a pass change, of what is left out, what an empty block clears. -/
theorem mem_touched_passCloudInit_iff {policy : Policy} {doc : Document} {desired : Desired} {remote : Remote}
    {identity : Identity} {status : Status} {observed : Observed} {param : String}
    (hd : doc.desired policy = .ok desired) (hk : desired.kind = .vm)
    (ho : remote.observe identity status = .ok observed) (hi : identity.kind = .vm) (hl : doc.LeftOut param) :
    param ∈ touched (passCloudInit desired observed).updates ↔ doc.Clears observed param := by
  rw [passCloudInit_vm desired ho hi, Document.cloudInit_of_vm hd hk, clears_iff]
  cases hb : doc.init with
  | none => simp [planCloudInit, CloudInitPlan.empty, touched]
  | some block =>
    change param ∈ touched (cloudInitUpdates _ _) ↔ _
    rw [mem_touched_cloudInitUpdates]
    -- a part of the block that touches what is left out says nothing, so it is the empty one
    refine or_congr ?_ (or_congr ?_ ?_)
    · constructor
      · rintro ⟨a, ha, hmem⟩
        obtain ⟨written, hw, rfl⟩ := Option.map_eq_some_iff.1 ha
        have hparam : param ∈ ["ciuser", "cipassword", "sshkeys"] := by
          rcases mem_touched_accountIntents.1 hmem with ⟨rfl, -⟩ | ⟨rfl, -⟩ | ⟨rfl, -⟩ <;> decide
        obtain rfl := hl.account_eq hparam (by rw [hb]; exact hw)
        exact ⟨hw, hmem⟩
      · rintro ⟨hw, hmem⟩
        exact ⟨_, Option.map_eq_some_iff.2 ⟨_, hw, rfl⟩, hmem⟩
    · constructor
      · rintro ⟨r, hr, hmem⟩
        have hparam : param ∈ ["searchdomain", "nameserver"] := by
          rcases mem_touched_resolverIntents.1 hmem with ⟨rfl, -⟩ | ⟨rfl, -⟩ <;> decide
        obtain rfl := hl.resolver_eq hparam (by rw [hb]; exact hr)
        exact ⟨hr, hmem⟩
      · rintro ⟨hr, hmem⟩
        exact ⟨_, hr, hmem⟩
    · change param ∈ touched (ipConfigIntents (block.ipConfigs.map Document.IpBlock.toIpConfig) _) ↔ _
      constructor
      · intro hmem
        obtain ⟨n, rfl, -⟩ := mem_touched_ipConfigIntents.1 hmem
        have hnil : block.ipConfigs = [] := by simpa [hb] using hl.addresses_eq_nil
        rw [hnil] at hmem
        exact ⟨block, rfl, hnil, hmem⟩
      · rintro ⟨written, hw, hnil, hmem⟩
        obtain rfl := Option.some.inj hw
        rw [hnil]
        exact hmem

/-- After a copy, a pass over a virtual machine changes what its document leaves out in two cases only: the
type of the operating system, where its block is written without one and the copy has another type than the
policy's; and first-boot settings that the copy reports, where a block is written that does not mention
them. -/
theorem copy_keeps_iff {policy : Policy} {doc : Document} {desired : Desired} {remote : Remote}
    {identity : Identity} {status : Status} {observed : Observed} {param : String}
    (hd : doc.desired policy = .ok desired) (hk : desired.kind = .vm) (hclone : doc.clone.isSome = true)
    (hi : identity.kind = .vm) (ho : remote.observe identity status = .ok observed) (hl : doc.LeftOut param) :
    (∃ i ∈ (planPass desired observed true).plan.intents, i.op.param? = some param) ↔
      (param = "ostype" ∧ doc.system.isSome = true ∧ observed.config.osType.value ≠ policy.osType) ∨
        doc.Clears observed param := by
  rw [← mem_touched, mem_touched_planPass_iff hd hk ho hi hl.not_isDriveSlot,
    mem_touched_passCloudInit_iff hd hk ho hi hl, mem_touched_passDiff_iff hd hclone ho hi hl, or_comm]

/-- A copy of a machine with another system and with an address, whose document mentions neither. -/
def copiedServer : Document where
  node := "pve1"
  id := some 100
  clone := some { id := 9000 }
  system := some {}
  init := some {}

def copiedServerFound : Remote :=
  .ofList [("ostype", .string "win11"), ("ide2", .string "local-lvm:vm-100-cloudinit,media=cdrom"),
    ("ipconfig0", .string "ip=dhcp")]

theorem copy_keeps_copiedServer : ∃ desired observed, copiedServer.desired {} = .ok desired ∧
    desired.kind = .vm ∧ copiedServer.clone.isSome = true ∧
    copiedServerFound.observe ⟨"pve1", 100, .vm⟩ ⟨.stopped, none⟩ = .ok observed ∧
    copiedServer.LeftOut "ostype" ∧ copiedServer.LeftOut "ipconfig0" ∧ copiedServer.LeftOut "name" ∧
    (∃ i ∈ (planPass desired observed true).plan.intents, i.op.param? = some "ostype") ∧
    (∃ i ∈ (planPass desired observed true).plan.intents, i.op.param? = some "ipconfig0") ∧
    ¬∃ i ∈ (planPass desired observed true).plan.intents, i.op.param? = some "name" := by
  obtain ⟨desired, hd⟩ : ∃ desired, copiedServer.desired {} = .ok desired := ⟨_, rfl⟩
  have hk : desired.kind = .vm := by cases hd; rfl
  have hfacts : (copiedServerFound.observe ⟨"pve1", 100, .vm⟩ ⟨.stopped, none⟩).toOption.map
      (fun o => (o.config.osType.value, ipConfigText? o.addresses[0]?)) = some ("win11", some "ip=dhcp") := by
    decide +kernel
  cases ho : copiedServerFound.observe ⟨"pve1", 100, .vm⟩ ⟨.stopped, none⟩ with
  | error failure => rw [ho] at hfacts; cases hfacts
  | ok observed =>
    rw [ho] at hfacts
    have hos : observed.config.osType.value = "win11" := (Prod.ext_iff.1 (Option.some.inj hfacts)).1
    have hip : ipConfigText? observed.addresses[0]? = some "ip=dhcp" :=
      (Prod.ext_iff.1 (Option.some.inj hfacts)).2
    have hsystem : copiedServer.LeftOut "ostype" := .named rfl
    have haddress : copiedServer.LeftOut "ipconfig0" := .address 0 rfl
    have hname : copiedServer.LeftOut "name" := .named rfl
    refine ⟨desired, observed, hd, hk, rfl, rfl, hsystem, haddress, hname, ?_, ?_, ?_⟩
    · refine (copy_keeps_iff hd hk rfl rfl ho hsystem).2 (.inl ⟨rfl, rfl, ?_⟩)
      rw [hos]
      decide
    · have hnot : ipConfigText? observed.addresses[0]? ≠ none := by
        rw [hip]
        simp
      exact (copy_keeps_iff hd hk rfl rfl ho haddress).2 (.inr (.address rfl rfl hnot))
    · rw [copy_keeps_iff hd hk rfl rfl ho hname]
      rintro (⟨h, -⟩ | h)
      · exact absurd h (by decide)
      · generalize hp : "name" = param at h
        cases h with
        | address =>
          exact Document.ipconfigSlot_not_mem_namedParams _ (hp ▸ (by decide : "name" ∈ Document.namedParams))
        | _ => exact absurd hp (by decide)

end Plan

end Steward
