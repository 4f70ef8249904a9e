/-
Where the generated drive is found after a plan for it was carried out. It is the first drive of its kind in
the order of the slots, so another one in an earlier slot hides it; and the settings that go with it are not
looked at before there is a drive, so what is stored without one is only removed by the next plan. Nothing else
keeps the next plan from being empty.
-/
import Mathlib
import Steward.Proofs.FirstBootRules
import Steward.Proofs.PowerHistory

namespace Steward

open PropertyString

namespace Remote

/-! ## Generated drives -/

variable (remote : Remote)

/-- What a slot holds, if it can be read. -/
def drive? (slot : String) : Option Drive :=
  (remote.text? slot).bind fun text => (Drive.ofText slot text).toOption

/-- Whether a slot holds a generated drive of the instance `id`. -/
def generated (id : UInt32) (slot : String) : Bool :=
  (remote.drive? slot).any fun drive => drive.isCdrom && CloudInit.isVolumeOf id drive.volume

/-- The store of what a slot holds. -/
def storeAt (slot : String) : String := ((remote.drive? slot).map (·.disk.datastore)).getD ""

variable {remote} {identity : Identity} {status : Status} {observed : Observed}

/-- The first-boot settings are found with the first generated drive. -/
theorem cloudInit_of_observe (ho : remote.observe identity status = .ok observed) (hi : identity.kind = .vm) :
    observed.config.cloudInit = (driveSlots.find? (remote.generated identity.id)).map fun slot =>
      remote.cloudInitAt slot (remote.storeAt slot) := by
  obtain ⟨drives, firmware, hdrives, -, -, rfl⟩ := (observe_vm_eq_ok_iff hi).1 ho
  have hfind : cloudInitDrive? identity.id drives =
      (driveSlots.find? (remote.generated identity.id)).bind fun slot =>
        (remote.drive? slot).map fun drive => (slot, drive) := by
    obtain ⟨-, rfl⟩ := drivesIn_eq_ok_iff.1 hdrives
    simp only [cloudInitDrive?, List.find?_filterMap, Option.any_map]
    rfl
  change (cloudInitDrive? identity.id drives).map _ = _
  rw [hfind]
  cases hslot : driveSlots.find? (remote.generated identity.id) with
  | none => rfl
  | some slot =>
    have hgenerated := List.find?_some hslot
    cases hdrive : remote.drive? slot with
    | none => rw [generated, hdrive] at hgenerated; cases hgenerated
    | some drive => simp [hdrive, storeAt]

/-! ## Carrying out a plan for the drive -/

/-- The configuration after a step: a drive that is attached gets its volume, everything else is stored as it
is written. -/
def grant (id : UInt32) (remote : Remote) (i : Intent) : Remote :=
  match i.reason, i.op with
  | .cloudInitAttach, .update _ slot text => remote.insert slot (.string (Lab.allocated id remote text))
  | _, _ => remote.apply i

def grantAll (id : UInt32) (remote : Remote) (steps : List Intent) : Remote := steps.foldl (grant id) remote

variable {id : UInt32} {steps : List Intent}

theorem grantAll_append (xs ys : List Intent) :
    remote.grantAll id (xs ++ ys) = (remote.grantAll id xs).grantAll id ys := List.foldl_append

theorem grantAll_eq_applyAll (h : ∀ i ∈ steps, i.reason ≠ .cloudInitAttach) :
    remote.grantAll id steps = remote.applyAll steps := by
  refine List.foldl_ext _ _ _ fun config i hi => ?_
  have hreason := h i hi
  rw [grant]
  split
  · contradiction
  · rfl

theorem get?_applyAll_congr {a b : Remote} {key : String} (h : a.get? key = b.get? key) (steps : List Intent) :
    (a.applyAll steps).get? key = (b.applyAll steps).get? key := by
  induction steps generalizing a b with
  | nil => exact h
  | cons i steps ih =>
    refine ih ?_
    rw [get?_apply, get?_apply, h]

/-! ## Configurations that agree on a slot -/

variable {a b : Remote} {slot : String}

theorem drive?_congr (h : a.get? slot = b.get? slot) : a.drive? slot = b.drive? slot := by
  rw [drive?, drive?, text?, text?, h]

theorem generated_congr (h : a.get? slot = b.get? slot) : a.generated id slot = b.generated id slot := by
  rw [generated, generated, drive?_congr h]

theorem storeAt_congr (h : a.get? slot = b.get? slot) : a.storeAt slot = b.storeAt slot := by
  rw [storeAt, storeAt, drive?_congr h]

end Remote

theorem ParamRule.steps_congr {rules : List ParamRule} {a b : Remote}
    (h : ∀ r ∈ rules, a.get? r.param = b.get? r.param) : steps rules a = steps rules b :=
  List.filterMap_congr fun r hr => by rw [stepIn, stepIn, h r hr]

namespace Plan

variable {want : CloudInit} {found : Option CloudInit} {occupied : NameSet} {remote : Remote} {id : UInt32}

/-- The text of the drive once its volume has been allocated. -/
def storedDrive (id : UInt32) (store : String) : String :=
  PropertyString.toText ⟨some (store ++ ":" ++ CloudInit.volumePath id), [("media", "cdrom")]⟩

/-- The configuration before the first-boot settings are written, with the drive where it is wanted. -/
theorem get?_detached (remote : Remote) (want : CloudInit) (found : Option CloudInit) (occupied : NameSet)
    {key : String} (h : key ≠ targetSlot want found) :
    (remote.applyAll (detachIntents want found occupied)).get? key =
      if found.bind (·.interface) = some key then none else remote.get? key := by
  have htarget (config : Remote) (c : Prop) [Decidable c] :
      (config.applyAll (if c then [Intent.delete (targetSlot want found) .cloudInitDetach] else [])).get? key =
        config.get? key := by
    refine Remote.get?_applyAll_other fun i hi => ?_
    split at hi
    · rw [List.mem_singleton.1 hi]
      exact fun he => h (Option.some.inj he).symm
    · cases hi
  rw [detachIntents, Remote.applyAll, List.foldl_append, ← Remote.applyAll, ← Remote.applyAll, htarget]
  cases found.bind (·.interface) with
  | none => rfl
  | some slot =>
    rw [Option.toList_some, List.map_singleton, Remote.applyAll, List.foldl_cons, List.foldl_nil,
      Remote.get?_apply]
    rfl

theorem reason_cloudInitUpdates (want : CloudInit) (found : Option CloudInit) :
    ∀ i ∈ cloudInitUpdates want found, i.reason ≠ .cloudInitAttach := by
  intro i hi hreason
  have hplain := plain_cloudInitUpdates want found i hi
  simp [Intent.isPlain, hreason] at hplain

/-- A plan that attaches the drive empties two slots at most, stores the drive, and then the settings. -/
theorem grantAll_relocating (hs : IsStore want.datastore) (hr : needsRelocation want found = true) :
    remote.grantAll id (planCloudInit (some want) found occupied).steps =
      Remote.applyAll ((remote.applyAll (detachIntents want found occupied)).insert (targetSlot want found)
        (.string (storedDrive id want.datastore))) (cloudInitUpdates want found) := by
  have hsteps : (planCloudInit (some want) found occupied).steps =
      detachIntents want found occupied ++ [attachIntent want found] ++ cloudInitUpdates want found := by
    simp [CloudInitPlan.steps, planCloudInit, hr]
  have hdetach : ∀ i ∈ detachIntents want found occupied, i.reason ≠ .cloudInitAttach := by
    intro i hi
    have hmem : i ∈ (planCloudInit (some want) found occupied).detach := by simpa [planCloudInit, hr] using hi
    obtain ⟨slot, rfl, -⟩ := mem_detach hmem
    exact fun h => by cases h
  rw [hsteps, Remote.grantAll_append, Remote.grantAll_append, Remote.grantAll_eq_applyAll hdetach,
    Remote.grantAll_eq_applyAll (reason_cloudInitUpdates want found), Remote.grantAll, List.foldl_cons,
    List.foldl_nil]
  congr 1
  rw [Remote.grant, attachIntent, Intent.update]
  dsimp only
  rw [CloudInit.allocated_driveText hs]
  rfl

theorem grantAll_staying (hr : needsRelocation want found = false) :
    remote.grantAll id (planCloudInit (some want) found occupied).steps =
      remote.applyAll (cloudInitUpdates want found) := by
  have hsteps : (planCloudInit (some want) found occupied).steps = cloudInitUpdates want found := by
    simp [CloudInitPlan.steps, planCloudInit, hr]
  rw [hsteps, Remote.grantAll_eq_applyAll (reason_cloudInitUpdates want found)]

theorem isDriveSlot_of_mem_driveSlots {slot : String} (h : slot ∈ driveSlots) : IsDriveSlot slot :=
  .inl (parseInterface?_driveSlots slot h)

theorem isDriveSlot_of_mem_driveKeys {slot : String} (h : slot ∈ Remote.driveKeys .vm) : IsDriveSlot slot := by
  rcases List.mem_append.1 h with h | h
  · exact isDriveSlot_of_mem_driveSlots h
  · exact .inr (by simpa using h)

/-- What the slots of drives hold then. -/
theorem get?_grantAll_drive (hs : IsStore want.datastore) {slot : String} (h : IsDriveSlot slot) :
    (remote.grantAll id (planCloudInit (some want) found occupied).steps).get? slot =
      if needsRelocation want found then
        if slot = targetSlot want found then some (.string (storedDrive id want.datastore))
        else if found.bind (·.interface) = some slot then none
        else remote.get? slot
      else remote.get? slot := by
  have hupdates : ∀ i ∈ cloudInitUpdates want found, i.op.param? ≠ some slot := fun i hi hparam =>
    not_isDriveSlot_cloudInitParams _ slot
      ((touched_cloudInitUpdates want found).subset (mem_touched.2 ⟨i, hi, hparam⟩)) h
  cases hr : needsRelocation want found with
  | false =>
    rw [grantAll_staying hr, Remote.get?_applyAll_other hupdates]
    rfl
  | true =>
    rw [grantAll_relocating hs hr, Remote.get?_applyAll_other hupdates, Dict.get?_insert, if_pos rfl]
    by_cases htarget : slot = targetSlot want found
    · simp [htarget]
    · rw [if_neg htarget, get?_detached remote want found occupied htarget]
      simp [Ne.symm htarget]

/-- Everything else is as the steps for the settings leave it. -/
theorem get?_grantAll_other (hs : IsStore want.datastore) {key : String}
    (htarget : key ≠ targetSlot want found) (hslot : found.bind (·.interface) ≠ some key) :
    (remote.grantAll id (planCloudInit (some want) found occupied).steps).get? key =
      (remote.applyAll (cloudInitUpdates want found)).get? key := by
  cases hr : needsRelocation want found with
  | false => rw [grantAll_staying hr]
  | true =>
    rw [grantAll_relocating hs hr]
    refine Remote.get?_applyAll_congr ?_ _
    rw [Dict.get?_insert, if_neg (Ne.symm htarget), get?_detached remote want found occupied htarget,
      if_neg hslot]

/-! ## Where the drive is found next -/

/-- The slots that are searched before a slot. -/
def slotsBefore (slot : String) : List String := driveSlots.takeWhile (· != slot)

theorem find?_eq_some_iff_takeWhile {α : Type} [DecidableEq α] {p : α → Bool} {xs : List α} {a : α}
    (ha : a ∈ xs) (hp : p a = true) : xs.find? p = some a ↔ ∀ b ∈ xs.takeWhile (· != a), p b = false := by
  induction xs with
  | nil => cases ha
  | cons b xs ih =>
    rw [List.find?_cons, List.takeWhile_cons]
    by_cases hb : b = a
    · subst hb
      simp [hp]
    · have hmem : a ∈ xs := (List.mem_cons.1 ha).resolve_left (Ne.symm hb)
      cases hpb : p b <;> simp [hb, hpb, ih hmem]

section Found

variable (hf : found = (driveSlots.find? (remote.generated id)).map fun slot =>
  remote.cloudInitAt slot (remote.storeAt slot))

include hf

theorem interface_found : found.bind (·.interface) = driveSlots.find? (remote.generated id) := by
  rw [hf]
  cases driveSlots.find? (remote.generated id) <;> rfl

theorem datastore_found {slot : String} (h : found.bind (·.interface) = some slot) :
    found = some (remote.cloudInitAt slot (remote.storeAt slot)) := by
  rw [interface_found hf] at h
  rw [hf, h]
  rfl

/-- Without a step for it, the drive is where it is wanted. -/
theorem found_of_staying (hr : needsRelocation want found = false) :
    found.bind (·.interface) = some (targetSlot want found) ∧
      remote.generated id (targetSlot want found) = true ∧
      remote.storeAt (targetSlot want found) = want.datastore := by
  rw [needsRelocation, Bool.or_eq_false_iff, bne_eq_false_iff_eq] at hr
  refine ⟨hr.1, ?_, ?_⟩
  · have hfind := hr.1
    rw [interface_found hf] at hfind
    exact List.find?_some hfind
  · have hstore := hr.2
    rw [datastore_found hf hr.1] at hstore
    simpa [Remote.cloudInitAt] using hstore

theorem targetSlot_mem_driveSlots (h : ∀ slot ∈ want.interface, slot ∈ driveSlots) :
    targetSlot want found ∈ driveSlots := by
  rw [targetSlot]
  cases hw : want.interface with
  | some slot => exact h slot hw
  | none =>
    cases hslot : found.bind (·.interface) with
    | none => exact (by decide +kernel : CloudInit.defaultSlot ∈ driveSlots)
    | some slot =>
      rw [interface_found hf] at hslot
      exact List.mem_of_find?_eq_some hslot

/-- The steps for the settings are those of their rules: what is stored counts if there is a drive. -/
theorem cloudInitUpdates_found (hc : want.ipConfigs.length ≤ Remote.maxIpConfigs) :
    cloudInitUpdates want found =
      ParamRule.steps (initRules want) (if found.isSome then remote else .empty) := by
  rw [hf]
  cases driveSlots.find? (remote.generated id) with
  | none =>
    rw [Option.map_none, cloudInitUpdates_none want "" "", cloudInitUpdates_eq hc]
    rfl
  | some slot => exact cloudInitUpdates_eq hc remote _ _

end Found

theorem drive?_storedDrive {store slot : String} (hs : IsStore store)
    (h : remote.get? slot = some (.string (storedDrive id store))) :
    remote.generated id slot = true ∧ remote.storeAt slot = store := by
  obtain ⟨drive, hread, hcdrom, hvolume, hstore⟩ := CloudInit.ofText_allocated_driveText hs id .empty slot
  rw [CloudInit.allocated_driveText hs, ← storedDrive] at hread
  have hdrive : remote.drive? slot = some drive := by
    rw [Remote.drive?, Remote.text?, h]
    simp [Remote.textOf?, hread, Except.toOption]
  rw [Remote.generated, Remote.storeAt, hdrive]
  exact ⟨by simp [hcdrom, hvolume], hstore⟩

section Next

variable {next : Remote} {slot : String} (hs : Storable want)
  (hn : next = remote.grantAll id (planCloudInit (some want) found occupied).steps)
  (hf : found = (driveSlots.find? (remote.generated id)).map fun slot =>
    remote.cloudInitAt slot (remote.storeAt slot))

include hs hn hf

theorem drive_at_target (hp : targetSlot want found ∈ driveSlots) :
    next.generated id (targetSlot want found) = true ∧
      next.storeAt (targetSlot want found) = want.datastore := by
  have hget : next.get? (targetSlot want found) = _ :=
    hn ▸ get?_grantAll_drive hs.datastore (isDriveSlot_of_mem_driveSlots hp)
  cases hr : needsRelocation want found with
  | false =>
    simp only [hr, Bool.false_eq_true, if_false] at hget
    obtain ⟨-, hgenerated, hstore⟩ := found_of_staying hf hr
    rw [Remote.generated_congr hget, Remote.storeAt_congr hget]
    exact ⟨hgenerated, hstore⟩
  | true =>
    simp only [hr, if_true] at hget
    exact drive?_storedDrive hs.datastore hget

/-- Of the other slots only the one that the drive had is emptied. -/
theorem generated_elsewhere (hslot : slot ∈ driveSlots) (hne : slot ≠ targetSlot want found) :
    next.generated id slot = true ↔
      remote.generated id slot = true ∧ found.bind (·.interface) ≠ some slot := by
  have hget : next.get? slot = _ :=
    hn ▸ get?_grantAll_drive hs.datastore (isDriveSlot_of_mem_driveSlots hslot)
  rw [if_neg hne] at hget
  cases hr : needsRelocation want found with
  | false =>
    simp only [hr, Bool.false_eq_true, if_false] at hget
    rw [Remote.generated_congr hget, (found_of_staying hf hr).1]
    simp [Ne.symm hne]
  | true =>
    simp only [hr, if_true] at hget
    by_cases hleft : found.bind (·.interface) = some slot
    · rw [if_pos hleft] at hget
      simp [Remote.generated, Remote.drive?, Remote.text?, hget, hleft]
    · rw [if_neg hleft] at hget
      simp [Remote.generated_congr hget, hleft]

/-- The drive is found in its new slot exactly if no other one is found before. -/
theorem find?_next (hp : targetSlot want found ∈ driveSlots) :
    driveSlots.find? (next.generated id) = some (targetSlot want found) ↔
      ∀ slot ∈ slotsBefore (targetSlot want found), remote.generated id slot = true →
        found.bind (·.interface) = some slot := by
  rw [find?_eq_some_iff_takeWhile hp (drive_at_target hs hn hf hp).1]
  refine forall₂_congr fun slot hslot => ?_
  have hmem : slot ∈ driveSlots := (List.takeWhile_sublist _).subset hslot
  have hne : slot ≠ targetSlot want found := by simpa using List.mem_takeWhile_imp hslot
  rw [← Bool.not_eq_true, generated_elsewhere hs hn hf hmem hne]
  tauto

/-- Outside the slots of drives only the steps for the settings count. -/
theorem get?_next (hp : targetSlot want found ∈ driveSlots) {key : String} (h : ¬IsDriveSlot key) :
    next.get? key = (remote.applyAll (cloudInitUpdates want found)).get? key := by
  rw [hn]
  refine get?_grantAll_other hs.datastore (fun he => h ?_) fun he => h ?_
  · exact isDriveSlot_of_mem_driveSlots (he ▸ hp)
  · rw [interface_found hf] at he
    exact isDriveSlot_of_mem_driveSlots (List.mem_of_find?_eq_some he)

/-- What is planned for the settings next: nothing if there was a drive, else what had to be removed. -/
theorem cloudInitUpdates_next (hp : targetSlot want found ∈ driveSlots)
    (ht : ∀ account ∈ want.account, ∀ s ∈ account.keys, Text.trim s.toList = s.toList)
    (slot store : String) :
    cloudInitUpdates want (some (next.cloudInitAt slot store)) =
      if found.isSome then [] else
        (cloudInitUpdates want (some (remote.cloudInitAt slot store))).filter fun i => isDelete i.op := by
  have hfaithful := faithful_initSettings hs ht
  have hsettings : ∀ r ∈ initRules want, next.get? r.param =
      (remote.applyAll (cloudInitUpdates want found)).get? r.param := fun r hr =>
    get?_next hs hn hf hp (not_isDriveSlot_cloudInitParams _ _
      ((params_initRules want).subset (List.mem_map_of_mem hr)))
  rw [cloudInitUpdates_eq hs.count, cloudInitUpdates_eq hs.count, ParamRule.steps_congr hsettings,
    cloudInitUpdates_found hf hs.count]
  cases found.isSome with
  | false => exact steps_applyAll_unseen hfaithful remote
  | true =>
    have hdone := ParamRule.steps_applyAll (names_initRules want) (settles_initRules hfaithful)
      (nodup_initRules want) (List.Subperm.refl (ParamRule.steps (initRules want) remote))
    simp only [if_true]
    rw [hdone]
    simp

/-- The instance can still be observed. -/
theorem exists_observe_next {identity : Identity} {status later : Status} {observed : Observed}
    (hp : targetSlot want found ∈ driveSlots) (hi : identity.kind = .vm)
    (ho : remote.observe identity status = .ok observed) :
    ∃ after, next.observe identity later = .ok after := by
  obtain ⟨hdrives, hnics⟩ := Remote.exists_observe_iff.1 ⟨observed, ho⟩
  rw [hi] at hdrives hnics
  refine Remote.exists_observe_iff.2 ⟨?_, ?_⟩
  · rw [hi]
    intro slot hslot text htext
    have hget : next.get? slot = _ :=
      hn ▸ get?_grantAll_drive hs.datastore (isDriveSlot_of_mem_driveKeys hslot)
    rw [Remote.text?, hget] at htext
    split_ifs at htext
    · obtain ⟨drive, hread, -⟩ := CloudInit.ofText_allocated_driveText hs.datastore id .empty slot
      rw [CloudInit.allocated_driveText hs.datastore, ← storedDrive] at hread
      obtain rfl : storedDrive id want.datastore = text := Option.some.inj htext
      exact ⟨drive, hread⟩
    · cases htext
    · exact hdrives slot hslot text htext
    · exact hdrives slot hslot text htext
  · rw [hi]
    intro slot hslot
    have hother : next.get? (nicSlot slot) = remote.get? (nicSlot slot) := by
      rw [get?_next hs hn hf hp (not_isDriveSlot_nicSlot slot), cloudInitUpdates_found hf hs.count,
        Remote.get?_applyAll_other]
      intro i hmem hparam
      have htouched :=
        (ParamRule.touched_steps (names_initRules want) _).subset (mem_touched.2 ⟨i, hmem, hparam⟩)
      exact (Desired.nicKeys_apart .vm _ (List.mem_map_of_mem (List.mem_range.2 hslot))).2
        ((params_initRules want).subset htouched)
    rw [hother]
    exact hnics slot hslot

end Next

/-- A plan is empty if the drive stays and no setting is changed. -/
theorem planCloudInit_eq_empty_iff {c : CloudInit} :
    planCloudInit (some want) (some c) occupied = .empty ↔
      needsRelocation want (some c) = false ∧ cloudInitUpdates want (some c) = [] := by
  cases hr : needsRelocation want (some c) <;> simp [planCloudInit, hr, CloudInitPlan.empty]

/-- Carrying out a plan for the first-boot drive leaves an instance that can be observed. Its drive is then in
the slot and in the store where it is wanted, and the next plan is empty, exactly if no other generated drive
is in a slot that is searched before and, where no drive was found, nothing is stored that had to be
removed. -/
theorem drive_settles_iff {policy : Policy} {doc : Document} {desired : Desired} {want : CloudInit}
    {remote : Remote} {identity : Identity} {status : Status} {observed : Observed} (later : Status)
    (hd : doc.desired policy = .ok desired) (hk : desired.kind = .vm)
    (hw : desired.config.cloudInit = some want) (hs : Storable want)
    (hplain : ∀ slot ∈ want.interface, IsPlainSlot slot) (hi : identity.kind = .vm)
    (ho : remote.observe identity status = .ok observed) :
    let found := observed.config.cloudInit
    let target := targetSlot want found
    let steps := (planCloudInit desired.config.cloudInit found observed.occupied).steps
    ∃ after, (remote.grantAll identity.id steps).observe identity later = .ok after ∧
      (((∃ c, after.config.cloudInit = some c ∧ c.interface = some target ∧ c.datastore = want.datastore) ∧
          planCloudInit desired.config.cloudInit after.config.cloudInit after.occupied = .empty) ↔
        (∀ slot ∈ slotsBefore target, remote.generated identity.id slot = true →
            found.bind (·.interface) = some slot) ∧
          (found = none → ∀ i ∈ cloudInitUpdates want (some (remote.cloudInitAt target want.datastore)),
            isDelete i.op = false)) := by
  intro found target steps
  have hf := Remote.cloudInit_of_observe ho hi
  have hp : target ∈ driveSlots := targetSlot_mem_driveSlots hf fun slot hslot =>
    mem_driveSlots_of_isPlainSlot (hplain slot hslot) (declared_interface hd hk hw hslot |>.1)
  have hn : remote.grantAll identity.id steps =
      remote.grantAll identity.id (planCloudInit (some want) found observed.occupied).steps := by
    simp only [steps, hw]
  obtain ⟨after, hafter⟩ : ∃ after, (remote.grantAll identity.id steps).observe identity later = .ok after :=
    exists_observe_next hs hn hf hp hi ho
  refine ⟨after, hafter, ?_⟩
  have hnext := Remote.cloudInit_of_observe hafter hi
  have hstore := (drive_at_target hs hn hf hp).2
  have hupdates : cloudInitUpdates want (some ((remote.grantAll identity.id steps).cloudInitAt target
      want.datastore)) = [] ↔ (found = none → ∀ i ∈ cloudInitUpdates want (some (remote.cloudInitAt target
      want.datastore)), isDelete i.op = false) := by
    rw [cloudInitUpdates_next hs hn hf hp fun account ha => Document.trim_keys hd hw ha]
    cases found with
    | none => simp
    | some c => simp
  rw [← find?_next hs hn hf hp, ← hupdates, hw, ← interface_found hnext]
  constructor
  · rintro ⟨⟨c, hc, hslot, -⟩, hempty⟩
    have hinterface : after.config.cloudInit.bind (·.interface) = some target := by rw [hc]; exact hslot
    rw [datastore_found hnext hinterface, hstore] at hempty
    exact ⟨hinterface, (planCloudInit_eq_empty_iff.1 hempty).2⟩
  · rintro ⟨hinterface, hnothing⟩
    rw [datastore_found hnext hinterface, hstore]
    exact ⟨⟨_, rfl, rfl, rfl⟩,
      planCloudInit_eq_empty_iff.2 ⟨needsRelocation_self want found _ rfl rfl, hnothing⟩⟩

/-- A server whose drive is moved into a slot that a medium is in, and whose addresses have changed. -/
def relocatedServer : Document where
  node := "pve1"
  id := some 100
  system := some { osType := some "l26" }
  init := some
    { datastore := some "fast"
      interface := some "ide2"
      resolver := some ⟨some "lan", ["1.1.1.1", "9.9.9.9"]⟩
      ipConfigs := [{ ipv4 := some { address := some "dhcp" } }]
      account := some ⟨some "admin", some "secret", ["ssh-ed25519 AAAA", "ssh-rsa BBBB"]⟩ }

def relocatedServerFound : Remote := .ofList
  [("ide0", .string "local-lvm:vm-100-cloudinit,media=cdrom"),
    ("ide2", .string "local:iso/debian.iso,media=cdrom"),
    ("ciuser", .string "root"), ("nameserver", .string "8.8.8.8"), ("ipconfig1", .string "ip=dhcp")]

theorem drive_settles_relocatedServer :
    ∃ desired want observed after, relocatedServer.desired {} = .ok desired ∧
      desired.config.cloudInit = some want ∧ Storable want ∧ (∀ slot ∈ want.interface, IsPlainSlot slot) ∧
      relocatedServerFound.observe ⟨"pve1", 100, .vm⟩ ⟨.running, none⟩ = .ok observed ∧
      Remote.observe (relocatedServerFound.grantAll 100
        (planCloudInit desired.config.cloudInit observed.config.cloudInit observed.occupied).steps)
        ⟨"pve1", 100, .vm⟩ ⟨.stopped, none⟩ = .ok after ∧
      planCloudInit desired.config.cloudInit after.config.cloudInit after.occupied = .empty := by
  obtain ⟨desired, hd⟩ : ∃ desired, relocatedServer.desired {} = .ok desired := ⟨_, rfl⟩
  obtain ⟨want, hw⟩ : ∃ want, desired.config.cloudInit = some want := by
    cases hd
    exact ⟨_, rfl⟩
  have hs : Storable want := by
    cases hd
    cases hw
    decide +kernel
  have hplain : ∀ slot ∈ want.interface, IsPlainSlot slot := by
    cases hd
    cases hw
    decide +kernel
  have ho : relocatedServerFound.observe ⟨"pve1", 100, .vm⟩ ⟨.running, none⟩ = .ok _ :=
    Except.eq_ok_get (by decide +kernel)
  obtain ⟨after, hafter, hiff⟩ := drive_settles_iff ⟨.stopped, none⟩ hd (by cases hd; rfl) hw hs hplain rfl ho
  refine ⟨desired, want, _, after, hd, hw, hs, hplain, ho, hafter, (hiff.2 ?_).2⟩
  cases hd
  cases hw
  decide +kernel

/-- A plan that was carried out is followed by one that is not empty, though every text can be stored. -/
def Unsettled (doc : Document) (remote : Remote) : Prop :=
  ∃ desired want observed after, doc.desired {} = .ok desired ∧ desired.kind = .vm ∧
    desired.config.cloudInit = some want ∧ Storable want ∧
    remote.observe ⟨"pve1", 100, .vm⟩ ⟨.stopped, none⟩ = .ok observed ∧
    Remote.observe (remote.grantAll 100
      (planCloudInit desired.config.cloudInit observed.config.cloudInit observed.occupied).steps)
      ⟨"pve1", 100, .vm⟩ ⟨.stopped, none⟩ = .ok after ∧
    planCloudInit desired.config.cloudInit after.config.cloudInit after.occupied ≠ .empty

/-- A server that wants the drive of first-boot settings in a slot, and an account without a name. -/
def driveServer (slot : String) : Document where
  node := "pve1"
  id := some 100
  system := some { osType := some "l26" }
  init := some { interface := some slot, account := some ⟨none, none, []⟩ }

/-- One of two generated drives hides the one that is attached behind it; a name that is stored without a
drive is not seen before there is one; and a slot that is written with a zero in front is never searched. -/
theorem unsettled_drives :
    Unsettled (driveServer "ide2") (.ofList [("ide0", .string "local-lvm:vm-100-cloudinit,media=cdrom"),
      ("ide1", .string "local-lvm:vm-100-cloudinit,media=cdrom")]) ∧
    Unsettled (driveServer "ide2") (.ofList [("ciuser", .string "root")]) ∧
    Unsettled (driveServer "ide02") .empty :=
  ⟨⟨_, _, _, _, rfl, rfl, rfl, by decide +kernel, Except.eq_ok_get (by decide +kernel),
      Except.eq_ok_get (by decide +kernel), by decide +kernel⟩,
    ⟨_, _, _, _, rfl, rfl, rfl, by decide +kernel, Except.eq_ok_get (by decide +kernel),
      Except.eq_ok_get (by decide +kernel), by decide +kernel⟩,
    ⟨_, _, _, _, rfl, rfl, rfl, by decide +kernel, Except.eq_ok_get (by decide +kernel),
      Except.eq_ok_get (by decide +kernel), by decide +kernel⟩⟩

end Plan

end Steward
