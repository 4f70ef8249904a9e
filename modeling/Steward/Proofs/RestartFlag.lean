/-
When a pass owes a restart. Each comparison says whether its parameter takes effect at once, and each part of a
pass collects a flag of its own; together they say the same as the parameters that the plan changes
(`rebootRequired_iff`).
-/
import Mathlib
import Steward.Proofs.Batching
import Steward.Proofs.NetworkSlots

namespace Steward

/-- A change of the configuration names a parameter. -/
theorem Operation.exists_param? {op : Operation} (h : op.isConfigChange = true) :
    ∃ param, op.param? = some param := by
  cases op <;> first | exact ⟨_, rfl⟩ | cases h

/-- The parameters of which a change takes effect at once. -/
def Kind.liveParams : Kind → List String
  | .vm => ["name", "description", "tags", "onboot", "protection", "startup", "template", "cpuunits", "cpulimit",
      "balloon"]
  | .container => ["hostname", "description", "tags", "onboot", "protection", "startup", "template", "cores",
      "cpuunits", "cpulimit", "memory", "swap"]

/-- That some of the steps change a parameter that takes effect with a restart only. -/
def OwesRestart (kind : Kind) (intents : List Intent) : Prop :=
  ∃ i ∈ intents, ∃ param, i.op.param? = some param ∧ param ∉ kind.liveParams

namespace OwesRestart

variable {kind : Kind} {as bs : List Intent}

theorem append_iff : OwesRestart kind (as ++ bs) ↔ OwesRestart kind as ∨ OwesRestart kind bs := by
  simp only [OwesRestart, List.mem_append, or_and_right, exists_or]

/-- What steps depend on does not matter. -/
theorem congr (h : as.map Intent.bare = bs.map Intent.bare) : OwesRestart kind as ↔ OwesRestart kind bs := by
  have hbare (steps : List Intent) : OwesRestart kind steps ↔
      ∃ b ∈ steps.map Intent.bare, ∃ param, b.1.param? = some param ∧ param ∉ kind.liveParams := by
    simp [OwesRestart, Intent.bare]
  rw [hbare, hbare, h]

theorem not_of_live (h : ∀ i ∈ as, ∀ param, i.op.param? = some param → param ∈ kind.liveParams) :
    ¬OwesRestart kind as := fun ⟨i, hi, param, hparam, hnot⟩ => hnot (h i hi param hparam)

theorem not_of_param? (h : ∀ i ∈ as, i.op.param? = none) : ¬OwesRestart kind as :=
  not_of_live fun i hi param hparam => by
    rw [h i hi] at hparam
    cases hparam

/-- Where every step changes such a parameter, a restart is owed as soon as there is a step. -/
theorem iff_ne_nil (h : ∀ i ∈ as, ∃ param, i.op.param? = some param ∧ param ∉ kind.liveParams) :
    OwesRestart kind as ↔ as ≠ [] := by
  constructor
  · rintro ⟨i, hi, -⟩ rfl
    cases hi
  · intro hne
    obtain ⟨i, hi⟩ := List.exists_mem_of_ne_nil as hne
    exact ⟨i, hi, h i hi⟩

end OwesRestart

/-! ## Settings and network slots -/

/-- A comparison that says rightly whether its parameter takes effect at once. -/
def Comparison.Timely (kind : Kind) (c : Comparison) : Prop := c.restart = true ↔ c.param ∉ kind.liveParams

namespace Plan

section Comparisons

variable (ctx : DiffContext) (desired observed : Config)

theorem timely_generalComparisons :
    ∀ c ∈ generalComparisons ctx desired observed, Comparison.Timely ctx.kind c := by
  obtain ⟨id, kind, copied⟩ := ctx
  cases kind <;>
    simp [generalComparisons, Comparison.Timely, DiffContext.compare, Kind.liveParams, Kind.nameKey]

theorem timely_cpuComparisons : ∀ c ∈ cpuComparisons ctx desired observed, Comparison.Timely ctx.kind c := by
  obtain ⟨id, kind, copied⟩ := ctx
  rw [cpuComparisons]
  split
  · simp
  · cases kind <;> simp [Comparison.Timely, DiffContext.compare, Kind.liveParams]

theorem timely_memoryComparisons :
    ∀ c ∈ memoryComparisons ctx desired observed, Comparison.Timely ctx.kind c := by
  obtain ⟨id, kind, copied⟩ := ctx
  rw [memoryComparisons]
  split
  · simp
  · cases kind <;> simp [Comparison.Timely, DiffContext.compare, Kind.liveParams, Kind.floatingKey]

theorem timely_machineComparisons (hvm : ctx.kind = .vm) :
    ∀ c ∈ machineComparisons ctx desired observed, Comparison.Timely ctx.kind c := by
  rw [hvm, machineComparisons, bootOrderComparisons]
  split <;> simp [Comparison.Timely, DiffContext.compare, Kind.liveParams]

theorem timely_comparisons : ∀ c ∈ comparisons ctx desired observed, Comparison.Timely ctx.kind c := by
  simp only [comparisons, hardwareComparisons, List.forall_mem_append]
  refine ⟨timely_generalComparisons ctx desired observed,
    ⟨timely_cpuComparisons ctx desired observed, timely_memoryComparisons ctx desired observed⟩, ?_⟩
  split
  · exact timely_machineComparisons ctx desired observed ‹_›
  · simp

theorem owesRestart_comparisons {kind : Kind} {cs : List Comparison} (h : ∀ c ∈ cs, c.Timely kind) :
    OwesRestart kind (cs.filterMap Comparison.intent?) ↔ cs.any (fun c => c.differs && c.restart) = true := by
  have hstep {c : Comparison} {i : Intent} (hi : c.intent? = some i) :
      c.differs = true ∧ i.op.param? = some c.param := by
    unfold Comparison.intent? at hi
    split at hi
    · refine ⟨‹_›, ?_⟩
      split at hi <;> cases hi <;> rfl
    · cases hi
  rw [List.any_eq_true]
  constructor
  · rintro ⟨i, hi, param, hparam, hnot⟩
    obtain ⟨c, hc, hci⟩ := List.mem_filterMap.1 hi
    obtain ⟨hdiffers, hcparam⟩ := hstep hci
    obtain rfl : c.param = param := Option.some.inj (hcparam.symm.trans hparam)
    exact ⟨c, hc, by rw [hdiffers, (h c hc).2 hnot]; rfl⟩
  · rintro ⟨c, hc, hflags⟩
    obtain ⟨hdiffers, hrestart⟩ := Bool.and_eq_true_iff.1 hflags
    obtain ⟨i, hi⟩ : ∃ i, c.intent? = some i := by
      rw [Comparison.intent?, if_pos hdiffers]
      cases c.value <;> exact ⟨_, rfl⟩
    exact ⟨i, List.mem_filterMap.2 ⟨c, hc, hi⟩, c.param, (hstep hi).2, (h c hc).1 hrestart⟩

theorem not_owesRestart_template : ¬OwesRestart ctx.kind (templateIntents ctx desired observed) := by
  refine OwesRestart.not_of_live fun i hi param hparam => ?_
  unfold templateIntents at hi
  split at hi
  · obtain rfl := List.mem_singleton.1 hi
    obtain rfl : "template" = param := Option.some.inj hparam
    cases ctx.kind <;> decide
  · cases hi

theorem nicSlot_not_live (kind : Kind) (slot : Nat) : nicSlot slot ∉ kind.liveParams := by
  intro hlive
  cases kind <;> exact (by decide : ∀ live ∈ Kind.liveParams _, live.toList.take 3 ≠ "net".toList) _ hlive
    (take_nicSlot slot)

theorem owesRestart_networkIntents :
    OwesRestart ctx.kind (networkIntents ctx desired observed) ↔ networkIntents ctx desired observed ≠ [] := by
  refine OwesRestart.iff_ne_nil fun i hi => ?_
  obtain ⟨slot, hslot⟩ := exists_slot_of_mem hi
  exact ⟨nicSlot slot, hslot, nicSlot_not_live ctx.kind slot⟩

theorem rebootRequired_diffConfig :
    (diffConfig ctx desired observed).rebootRequired = true ↔
      OwesRestart ctx.kind (diffConfig ctx desired observed).intents := by
  obtain ⟨hgeneral, hhardware⟩ := List.forall_mem_append.1 (timely_comparisons ctx desired observed)
  simp only [diffConfig, comparisons, OwesRestart.append_iff, not_owesRestart_template,
    owesRestart_networkIntents, owesRestart_comparisons hgeneral, owesRestart_comparisons hhardware,
    List.any_append, Bool.or_eq_true, or_false]
  simp

end Comparisons

end Plan

/-! ## First boot and disks -/

/-- That a plan for disks owes a restart exactly if it updates some of them. -/
def DiskPlan.Flagged (p : DiskPlan) : Prop := p.rebootRequired = !p.updates.isEmpty

theorem DiskPlan.Flagged.append {p q : DiskPlan} (hp : p.Flagged) (hq : q.Flagged) : (p ++ q).Flagged := by
  have hflag : (p ++ q).rebootRequired = (p.rebootRequired || q.rebootRequired) := rfl
  rw [Flagged, hflag, Plan.updates_append, hp, hq]
  cases p.updates <;> rfl

namespace Plan

theorem flagged_changeDisk (id : UInt32) (slot : String) (want : Disk) (found : Option Disk) :
    (changeDisk id slot want found).Flagged := by
  cases found with
  | none => rfl
  | some found =>
    have hresize : (resizeDisk id slot want found).Flagged := by
      unfold resizeDisk
      split_ifs <;> rfl
    have hmove : (moveDisk id slot want found).Flagged := by
      unfold moveDisk
      split_ifs <;> rfl
    have hretune : (retuneDisk slot want found).Flagged := by
      unfold retuneDisk
      split_ifs <;> rfl
    exact (hresize.append hmove).append hretune

theorem flagged_planDisks (id : UInt32) (desired observed : Dict Disk) :
    (planDisks id desired observed).Flagged :=
  planDisks_of_changeDisk DiskPlan.Flagged (fun _ _ => .append) (fun _ => rfl) (flagged_changeDisk id) desired
    observed

theorem rebootRequired_planCloudInit (want found : Option CloudInit) (occupied : NameSet) :
    (planCloudInit want found occupied).rebootRequired =
      !(planCloudInit want found occupied).steps.isEmpty := by
  cases want with
  | none => rfl
  | some want => cases hr : needsRelocation want found <;> simp [planCloudInit, CloudInitPlan.steps, hr]

theorem rebootRequired_passCloudInit (desired : Desired) (observed : Observed) :
    (passCloudInit desired observed).rebootRequired = !(passCloudInit desired observed).steps.isEmpty := by
  rw [passCloudInit]
  cases observed.identity.kind with
  | vm => exact rebootRequired_planCloudInit _ _ _
  | container => rfl

theorem initParams_not_live (kind : Kind) (n : Nat) : ∀ param ∈ initParams kind n, param ∉ kind.liveParams := by
  cases kind with
  | vm =>
    intro param hparam hlive
    rcases List.mem_append.1 hparam with hword | hslot
    · exact (by decide : ∀ param ∈ ["ciuser", "cipassword", "sshkeys", "searchdomain", "nameserver"],
        param ∉ Kind.liveParams .vm) param hword hlive
    · obtain ⟨m, -, rfl⟩ := List.mem_map.1 hslot
      exact (by decide : ∀ live ∈ Kind.liveParams .vm, live.toList.take 8 ≠ "ipconfig".toList) _ hlive
        (take_ipconfigSlot m)
  | container =>
    exact (by decide : ∀ param ∈ ["searchdomain", "nameserver"], param ∉ Kind.liveParams .container)

theorem slot_not_live {kind : Kind} {slot : String} (h : IsDriveSlot slot ∨ slot = rootSlot) :
    slot ∉ kind.liveParams := by
  intro hlive
  cases kind <;> exact (by decide +kernel : ∀ live ∈ Kind.liveParams _, ¬(IsDriveSlot live ∨ live = rootSlot))
    slot hlive h

/-! ## The whole pass -/

theorem owesRestart_schedule (kind : Kind) (s : ScheduleInput) :
    OwesRestart kind (schedule s).intents ↔ OwesRestart kind s.cloudInit.steps ∨ OwesRestart kind s.config ∨
      OwesRestart kind s.disks.steps := by
  have hbefore : ¬OwesRestart kind (s.migration ++ s.opening) :=
    OwesRestart.not_of_param? fun i hi => param?_around_changes (.inl hi)
  have hbehind : ¬OwesRestart kind (s.alignment ++ s.restart) :=
    OwesRestart.not_of_param? fun i hi => param?_around_changes (.inr hi)
  rw [intents_schedule, OwesRestart.append_iff, or_iff_left hbehind, OwesRestart.append_iff,
    or_iff_right hbefore, OwesRestart.congr s.bare_changes, OwesRestart.append_iff, OwesRestart.append_iff,
    or_assoc]

variable {policy : Policy} {doc : Document} {desired : Desired} {remote : Remote} {identity : Identity}
  {status : Status} {observed : Observed}

/-- What a pass does about first boot takes effect with a restart only. -/
theorem passCloudInit_not_live (hd : doc.desired policy = .ok desired)
    (ho : remote.observe identity status = .ok observed) {i : Intent}
    (h : i ∈ (passCloudInit desired observed).steps) :
    ∃ param, i.op.param? = some param ∧ param ∉ identity.kind.liveParams := by
  rw [CloudInitPlan.steps, List.mem_append, List.mem_append, Option.mem_toList] at h
  rcases h with (h | h) | h
  · obtain ⟨slot, rfl, hslot⟩ := mem_detach_pass hd ho h
    exact ⟨slot, rfl, slot_not_live (.inl hslot)⟩
  · obtain ⟨field, slot, value, rfl, hslot⟩ := mem_attach_pass hd ho h
    exact ⟨slot, rfl, slot_not_live (.inl hslot)⟩
  · have hplain := plain_updates_passCloudInit desired observed i h
    obtain ⟨param, hparam⟩ := Operation.exists_param?
      (Bool.and_eq_true_iff.1 (Bool.and_eq_true_iff.1 hplain).1).1
    obtain ⟨n, hsub⟩ := touched_passCloudInit desired observed
    rw [(Remote.observe_spec ho).1] at hsub
    exact ⟨param, hparam, initParams_not_live _ n param (hsub.subset (mem_touched.2 ⟨i, h, hparam⟩))⟩

theorem owesRestart_passDisks (kind : Kind) (observed : Observed) (hd : doc.desired policy = .ok desired) :
    OwesRestart kind (passDisks desired observed).steps ↔ (passDisks desired observed).updates ≠ [] := by
  have hother : ¬OwesRestart kind
      ((passDisks desired observed).moves ++ (passDisks desired observed).resizes) :=
    OwesRestart.not_of_param? fun i hi => param?_planDisks (List.mem_append.1 hi)
  rw [DiskPlan.steps, List.append_assoc, OwesRestart.append_iff, or_iff_left hother]
  refine OwesRestart.iff_ne_nil fun i hi => ?_
  obtain ⟨field, slot, value, reason, rfl, -⟩ := mem_updates_planDisks hi
  have hslot := slot_of_disks hd ((touched_planDisks _ _ _).subset (mem_touched.2 ⟨_, hi, rfl⟩))
  exact ⟨slot, rfl, slot_not_live hslot⟩

/-- A plan says that a restart is owed exactly if it changes a parameter that takes effect with a restart
only, whether the instance has just been copied or not. -/
theorem rebootRequired_iff (copied : Bool) (hd : doc.desired policy = .ok desired)
    (ho : remote.observe identity status = .ok observed) :
    (planPass desired observed copied).plan.rebootRequired = true ↔
      ∃ i ∈ (planPass desired observed copied).plan.intents, ∃ param, i.op.param? = some param ∧
        param ∉ identity.kind.liveParams := by
  have hcloud : (passCloudInit desired observed).rebootRequired = true ↔
      OwesRestart identity.kind (passCloudInit desired observed).steps := by
    rw [OwesRestart.iff_ne_nil fun i hi => passCloudInit_not_live hd ho hi, rebootRequired_passCloudInit]
    simp
  have hdiff : (passDiff desired observed copied).rebootRequired = true ↔
      OwesRestart identity.kind (passDiff desired observed copied).intents := by
    rw [← (Remote.observe_spec ho).1]
    exact rebootRequired_diffConfig (passContext observed copied) desired.config observed.config
  have hdisks : (passDisks desired observed).rebootRequired = true ↔
      OwesRestart identity.kind (passDisks desired observed).steps := by
    rw [owesRestart_passDisks identity.kind observed hd, passDisks, flagged_planDisks]
    simp
  have hflag : (planPass desired observed copied).plan.rebootRequired =
      ((passDiff desired observed copied).rebootRequired || (passCloudInit desired observed).rebootRequired ||
        (passDisks desired observed).rebootRequired) := rfl
  have hsteps := owesRestart_schedule identity.kind (passInput desired observed copied)
  rw [hflag, Bool.or_eq_true, Bool.or_eq_true, hcloud, hdiff, hdisks, or_right_comm, or_comm]
  exact hsteps.symm

/-- A copy that gets another name, and nothing else. -/
def renamedServer : Document where
  node := "pve1"
  id := some 100
  clone := some { id := 9000 }
  name := some "web"

def renamedServerFound : Remote := .ofList [("name", .string "template"), ("cores", .string "2")]

/-- A running server gets more processors, a copy another name. -/
theorem rebootRequired_iff_webServer :
    (∃ desired observed, webServer.desired {} = .ok desired ∧
      webServerFound.observe ⟨"pve1", 100, .vm⟩ ⟨.running, none⟩ = .ok observed ∧
      (planPass desired observed false).plan.rebootRequired = true) ∧
    ∃ desired observed, renamedServer.desired {} = .ok desired ∧
      renamedServerFound.observe ⟨"pve1", 100, .vm⟩ ⟨.running, none⟩ = .ok observed ∧
      (planPass desired observed true).plan.hasChanges = true ∧
      (planPass desired observed true).plan.rebootRequired = false := by
  constructor
  · obtain ⟨desired, hd⟩ : ∃ desired, webServer.desired {} = .ok desired := ⟨_, rfl⟩
    obtain ⟨observed, ho⟩ : ∃ observed,
      webServerFound.observe ⟨"pve1", 100, .vm⟩ ⟨.running, none⟩ = .ok observed := ⟨_, rfl⟩
    have hcores : .update "cpu.cores" "cores" "4" .drift ∈ (planPass desired observed false).plan.intents := by
      cases hd
      cases ho
      decide +kernel
    exact ⟨desired, observed, hd, ho, (rebootRequired_iff false hd ho).2 ⟨_, hcores, "cores", rfl, by decide⟩⟩
  · obtain ⟨desired, hd⟩ : ∃ desired, renamedServer.desired {} = .ok desired := ⟨_, rfl⟩
    obtain ⟨observed, ho⟩ : ∃ observed,
      renamedServerFound.observe ⟨"pve1", 100, .vm⟩ ⟨.running, none⟩ = .ok observed := ⟨_, rfl⟩
    have hname : (planPass desired observed true).plan.intents = [.update "name" "name" "web" .drift] := by
      cases hd
      cases ho
      decide +kernel
    refine ⟨desired, observed, hd, ho, by rw [hasChanges, hname]; rfl, ?_⟩
    rw [← Bool.not_eq_true, rebootRequired_iff true hd ho, hname]
    rintro ⟨i, hi, param, hparam, hnot⟩
    obtain rfl := List.mem_singleton.1 hi
    obtain rfl : "name" = param := Option.some.inj hparam
    exact hnot (by decide)

end Plan

end Steward
