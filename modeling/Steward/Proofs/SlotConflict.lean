/-
Where the first-boot drive of a virtual machine meets a declared disk. A slot that the document names
for the drive holds no disk, but the slot that the drive has, or the default one, is not looked at again
when a pass is planned: a drive that is moved there takes the slot of the disk.
-/
import Mathlib
import Steward.Plan.Pass
import Steward.Proofs.Resume
import Steward.Request

namespace Steward

/-! ## Parameters that steps touch -/

/-- The parameters that steps change, in their order. -/
def touched (intents : List Intent) : List String := intents.filterMap fun i => i.op.param?

/-- The parameters that steps set. -/
def setParams (intents : List Intent) : List String := (Desired.settings intents).map (·.1)

theorem mem_touched {intents : List Intent} {param : String} :
    param ∈ touched intents ↔ ∃ i ∈ intents, i.op.param? = some param := List.mem_filterMap

theorem touched_append (as bs : List Intent) : touched (as ++ bs) = touched as ++ touched bs :=
  List.filterMap_append

theorem setParams_append (as bs : List Intent) : setParams (as ++ bs) = setParams as ++ setParams bs := by
  rw [setParams, Desired.settings, List.filterMap_append, List.map_append]
  rfl

theorem setParams_sublist_touched (intents : List Intent) :
    (setParams intents).Sublist (touched intents) := by
  induction intents with
  | nil => exact List.Sublist.refl _
  | cons i intents ih =>
    rw [← List.singleton_append, setParams_append, touched_append]
    refine List.Sublist.append ?_ ih
    obtain ⟨op, reason, dependency⟩ := i
    cases op <;> simp [setParams, Desired.settings, touched, Operation.param?]

theorem touched_eq_filterMap_map (intents : List Intent) :
    touched intents = (intents.map (·.op.param?)).filterMap id := by
  rw [touched, List.filterMap_map]
  rfl

theorem ParamRule.touched_steps {rules : List ParamRule} (hp : ∀ r ∈ rules, r.Names) (remote : Remote) :
    (touched (steps rules remote)).Sublist (rules.map param) := by
  have hsub := (params_steps hp remote).filterMap id
  rw [← touched_eq_filterMap_map] at hsub
  rwa [← Function.comp_def some param, ← List.map_map, List.filterMap_map, Function.id_comp,
    List.filterMap_some] at hsub

/-! ## Slots of drives -/

/-- The names of slots in which disks are declared. -/
def IsDriveSlot (slot : String) : Prop :=
  (parseInterface? slot).isSome = true ∨ slot = firmwareSlot ∨ slot = keyStoreSlot

instance (slot : String) : Decidable (IsDriveSlot slot) := inferInstanceAs (Decidable (_ ∨ _))

theorem not_isDriveSlot_diffParams : ∀ param ∈ Plan.diffParams .vm, ¬IsDriveSlot param := by decide +kernel

/-- The name of a drive's slot begins like that of a bus, or is one of the two other ones. -/
theorem take_of_isDriveSlot {name : String} (h : IsDriveSlot name) :
    name.toList.take 3 ∈ ["ide", "sat", "scs", "vir", "efi", "tpm"].map String.toList := by
  rcases h with h | rfl | rfl
  · obtain ⟨found, hfound⟩ := Option.isSome_iff_exists.1 h
    obtain ⟨bus, -, hslot⟩ := List.exists_of_findSome?_eq_some hfound
    obtain ⟨slot, hslot, -⟩ := Option.bind_eq_some_iff.1 hslot
    rw [Bus.slotOf?] at hslot
    split at hslot
    · rename_i hprefix
      obtain ⟨rest, hrest⟩ := List.isPrefixOf_iff_prefix.1 hprefix
      rw [← hrest, List.take_append_of_le_length (by cases bus <;> decide)]
      cases bus <;> decide
    · cases hslot
  · decide
  · decide

theorem not_isDriveSlot_ipconfig (n : Nat) : ¬IsDriveSlot (IpConfig.slot n) := by
  intro h
  have htake : (IpConfig.slot n).toList.take 3 = "ipc".toList := by
    rw [IpConfig.slot, String.toList_append]
    rfl
  exact absurd (take_of_isDriveSlot h) (by rw [htake]; decide)

theorem take_nicSlot (n : Nat) : (nicSlot n).toList.take 3 = "net".toList := by
  rw [nicSlot, String.toList_append]
  rfl

theorem not_isDriveSlot_nicSlot (n : Nat) : ¬IsDriveSlot (nicSlot n) := by
  intro h
  exact absurd (take_of_isDriveSlot h) (by rw [take_nicSlot]; decide)

namespace Plan

/-- The parameters of first-boot settings other than the drive. -/
def cloudInitParams (addresses : Nat) : List String :=
  ["ciuser", "cipassword", "sshkeys", "searchdomain", "nameserver"] ++
    (List.range addresses).map IpConfig.slot

theorem take_ipconfigSlot (n : Nat) : (IpConfig.slot n).toList.take 8 = "ipconfig".toList := by
  rw [IpConfig.slot, String.toList_append]
  exact List.take_left' rfl

theorem nodup_cloudInitParams (n : Nat) : (cloudInitParams n).Nodup := by
  refine List.Nodup.append (by decide) (List.nodup_range.map fun a b h => Text.append_decimal_inj.1 h) ?_
  intro param hword hslot
  obtain ⟨m, -, rfl⟩ := List.mem_map.1 hslot
  exact (by decide : ∀ param ∈ ["ciuser", "cipassword", "sshkeys", "searchdomain", "nameserver"],
    param.toList.take 8 ≠ "ipconfig".toList) _ hword (take_ipconfigSlot m)

theorem disjoint_cloudInitParams (n : Nat) : List.Disjoint (cloudInitParams n) (diffParams .vm) := by
  intro param hinit hdiff
  rcases List.mem_append.1 hinit with hword | hslot
  · exact (by decide +kernel : ∀ param ∈ ["ciuser", "cipassword", "sshkeys", "searchdomain", "nameserver"],
      param ∉ diffParams .vm) param hword hdiff
  · obtain ⟨m, -, rfl⟩ := List.mem_map.1 hslot
    exact (by decide +kernel : ∀ param ∈ diffParams .vm, param.toList.take 8 ≠ "ipconfig".toList) _ hdiff
      (take_ipconfigSlot m)

theorem not_isDriveSlot_cloudInitParams (n : Nat) : ∀ param ∈ cloudInitParams n, ¬IsDriveSlot param := by
  intro param hp
  rcases List.mem_append.1 hp with hp | hp
  · exact (by decide : ∀ param ∈ ["ciuser", "cipassword", "sshkeys", "searchdomain", "nameserver"],
      ¬IsDriveSlot param) param hp
  · obtain ⟨m, -, rfl⟩ := List.mem_map.1 hp
    exact not_isDriveSlot_ipconfig m

/-! ## What the parts of a pass touch -/

theorem touched_setOrDelete (field param : String) (want found : Option String) :
    (touched (setOrDelete field param want found)).Sublist [param] := by
  unfold setOrDelete
  split
  · exact List.nil_sublist _
  · split <;> exact List.Sublist.refl _

theorem touched_ipConfigIntents (want found : List IpConfig) :
    (touched (ipConfigIntents want found)).Sublist
      ((List.range (max want.length found.length)).map IpConfig.slot) := by
  rw [ipConfigIntents]
  induction List.range (max want.length found.length) with
  | nil => exact List.Sublist.refl _
  | cons n rest ih =>
    rw [List.flatMap_cons, touched_append]
    exact (touched_setOrDelete _ _ _ _).append ih

theorem touched_cloudInitUpdates (want : CloudInit) (found : Option CloudInit) :
    (touched (cloudInitUpdates want found)).Sublist
      (cloudInitParams (max want.ipConfigs.length ((found.map (·.ipConfigs)).getD []).length)) := by
  have haccount : (touched ((want.account.map fun a => accountIntents a (found.bind (·.account))).getD
      [])).Sublist ["ciuser", "cipassword", "sshkeys"] := by
    cases want.account with
    | none => exact List.nil_sublist _
    | some account =>
      rw [Option.map_some, Option.getD_some, accountIntents, touched_append, touched_append]
      refine ((touched_setOrDelete _ "ciuser" _ _).append (?_ : List.Sublist _ ["cipassword"])).append
        (touched_setOrDelete _ "sshkeys" _ _)
      split
      · exact List.nil_sublist _
      · exact touched_setOrDelete _ _ _ _
  have hresolver : (touched ((want.resolver.map fun r => resolverIntents r (found.bind (·.resolver))).getD
      [])).Sublist ["searchdomain", "nameserver"] := by
    cases want.resolver with
    | none => exact List.nil_sublist _
    | some resolver =>
      rw [Option.map_some, Option.getD_some, resolverIntents, touched_append]
      exact (touched_setOrDelete _ _ _ _).append (touched_setOrDelete _ _ _ _)
  rw [cloudInitUpdates, touched_append, touched_append]
  exact (haccount.append hresolver).append (touched_ipConfigIntents _ _)

theorem updates_append (p q : DiskPlan) : (p ++ q).updates = p.updates ++ q.updates := rfl

theorem updates_resizeDisk (id : UInt32) (slot : String) (want found : Disk) :
    (resizeDisk id slot want found).updates = [] := by
  unfold resizeDisk
  split_ifs <;> rfl

theorem updates_moveDisk (id : UInt32) (slot : String) (want found : Disk) :
    (moveDisk id slot want found).updates = [] := by
  unfold moveDisk
  split_ifs <;> rfl

/-- A declared disk leads to one update of its slot at most, which is none of the first-boot drive. -/
theorem updates_changeDisk (id : UInt32) (slot : String) (want : Disk) (found : Option Disk) :
    (changeDisk id slot want found).updates = [] ∨
      ∃ value reason, (changeDisk id slot want found).updates = [.update (diskField slot) slot value reason] ∧
        reason ≠ .cloudInitAttach := by
  cases found with
  | none => exact .inr ⟨want.toText, .create, rfl, by decide⟩
  | some found =>
    rw [changeDisk, updates_append, updates_append, updates_resizeDisk, updates_moveDisk, retuneDisk]
    split_ifs
    · exact .inr ⟨_, .drift, rfl, by decide⟩
    · exact .inl rfl

/-- The steps of one kind for all disks are those for each disk, one after the other. -/
theorem planDisks_flatMap (steps : DiskPlan → List Intent)
    (ha : ∀ p q : DiskPlan, steps (p ++ q) = steps p ++ steps q)
    (hn : ∀ failures, steps { DiskPlan.empty with failures := failures } = []) (id : UInt32)
    (desired observed : Dict Disk) :
    steps (planDisks id desired observed) =
      desired.entries.flatMap fun e => steps (changeDisk id e.1 e.2 (observed.get? e.1)) := by
  have hfold : ∀ (plans : List DiskPlan) (start : DiskPlan),
      steps (plans.foldl (· ++ ·) start) = steps start ++ plans.flatMap steps := by
    intro plans
    induction plans with
    | nil => simp
    | cons p plans ih =>
      intro start
      rw [List.foldl_cons, ih, ha, List.flatMap_cons, List.append_assoc]
  rw [planDisks]
  split
  · rename_i hempty
    rw [List.isEmpty_iff.1 hempty]
    exact hn []
  · rw [hfold, hn, List.flatMap_map]
    rfl

/-- What holds of plans that are put together holds of the plan for all disks if it does for each. -/
theorem planDisks_of_changeDisk (P : DiskPlan → Prop) (ha : ∀ p q : DiskPlan, P p → P q → P (p ++ q))
    (hn : ∀ failures, P { DiskPlan.empty with failures := failures }) {id : UInt32}
    (hc : ∀ slot want found, P (changeDisk id slot want found)) (desired observed : Dict Disk) :
    P (planDisks id desired observed) := by
  have hfold (plans : List DiskPlan) (hp : ∀ p ∈ plans, P p) (start : DiskPlan) (hs : P start) :
      P (plans.foldl (· ++ ·) start) := by
    induction plans generalizing start with
    | nil => exact hs
    | cons p plans ih =>
      obtain ⟨hp, hplans⟩ := List.forall_mem_cons.1 hp
      exact ih hplans (start ++ p) (ha start p hs hp)
  rw [planDisks]
  split
  · exact hn []
  · refine hfold _ (fun p hp => ?_) _ (hn _)
    obtain ⟨entry, -, rfl⟩ := List.mem_map.1 hp
    exact hc _ _ _

theorem updates_planDisks (id : UInt32) (desired observed : Dict Disk) :
    (planDisks id desired observed).updates =
      desired.entries.flatMap fun e => (changeDisk id e.1 e.2 (observed.get? e.1)).updates :=
  planDisks_flatMap DiskPlan.updates (fun _ _ => rfl) (fun _ => rfl) id desired observed

/-- What is done for a disk besides updates: it is moved, and it grows. -/
theorem moves_resizes_changeDisk (id : UInt32) (slot : String) (want : Disk) (found : Option Disk) :
    (∀ i ∈ (changeDisk id slot want found).moves,
        ∃ store, i = ⟨.moveDisk slot store true, .diskMigration, .nothing⟩) ∧
      ∀ i ∈ (changeDisk id slot want found).resizes,
        ∃ size, i = ⟨.resizeDisk slot size, .diskGrowth, .nothing⟩ := by
  cases found with
  | none => simp [changeDisk, createDisk, DiskPlan.empty]
  | some found =>
    have hresize : (resizeDisk id slot want found).moves = [] ∧
        ∀ i ∈ (resizeDisk id slot want found).resizes,
          ∃ size, i = ⟨.resizeDisk slot size, .diskGrowth, .nothing⟩ := by
      unfold resizeDisk
      split_ifs <;> simp [DiskPlan.empty]
    have hmove : (moveDisk id slot want found).resizes = [] ∧
        ∀ i ∈ (moveDisk id slot want found).moves,
          ∃ store, i = ⟨.moveDisk slot store true, .diskMigration, .nothing⟩ := by
      unfold moveDisk
      split_ifs <;> simp [DiskPlan.empty]
    have hretune : (retuneDisk slot want found).moves = [] ∧ (retuneDisk slot want found).resizes = [] := by
      unfold retuneDisk
      split_ifs <;> exact ⟨rfl, rfl⟩
    change (∀ i ∈ (resizeDisk id slot want found).moves ++ (moveDisk id slot want found).moves ++
        (retuneDisk slot want found).moves, _) ∧
      ∀ i ∈ (resizeDisk id slot want found).resizes ++ (moveDisk id slot want found).resizes ++
        (retuneDisk slot want found).resizes, _
    rw [hresize.1, hmove.1, hretune.1, hretune.2]
    simpa using ⟨hmove.2, hresize.2⟩

theorem mem_moves_planDisks {id : UInt32} {desired observed : Dict Disk} {i : Intent}
    (h : i ∈ (planDisks id desired observed).moves) :
    ∃ slot store, i = ⟨.moveDisk slot store true, .diskMigration, .nothing⟩ := by
  rw [planDisks_flatMap DiskPlan.moves (fun _ _ => rfl) (fun _ => rfl) id desired observed] at h
  obtain ⟨entry, -, hi⟩ := List.mem_flatMap.1 h
  exact ⟨_, (moves_resizes_changeDisk id entry.1 entry.2 _).1 i hi⟩

theorem mem_resizes_planDisks {id : UInt32} {desired observed : Dict Disk} {i : Intent}
    (h : i ∈ (planDisks id desired observed).resizes) :
    ∃ slot size, i = ⟨.resizeDisk slot size, .diskGrowth, .nothing⟩ := by
  rw [planDisks_flatMap DiskPlan.resizes (fun _ _ => rfl) (fun _ => rfl) id desired observed] at h
  obtain ⟨entry, -, hi⟩ := List.mem_flatMap.1 h
  exact ⟨_, (moves_resizes_changeDisk id entry.1 entry.2 _).2 i hi⟩

/-- Moves and changes of size are no changes of parameters. -/
theorem param?_planDisks {id : UInt32} {desired observed : Dict Disk} {i : Intent}
    (h : i ∈ (planDisks id desired observed).moves ∨ i ∈ (planDisks id desired observed).resizes) :
    i.op.param? = none := by
  rcases h with h | h
  · obtain ⟨slot, store, rfl⟩ := mem_moves_planDisks h
    rfl
  · obtain ⟨slot, size, rfl⟩ := mem_resizes_planDisks h
    rfl

theorem touched_planDisks (id : UInt32) (desired observed : Dict Disk) :
    (touched (planDisks id desired observed).updates).Sublist desired.keys := by
  rw [updates_planDisks, Dict.keys]
  induction desired.entries with
  | nil => exact List.Sublist.refl _
  | cons entry entries ih =>
    rw [List.flatMap_cons, touched_append, List.map_cons, ← List.singleton_append]
    refine List.Sublist.append ?_ ih
    rcases updates_changeDisk id entry.1 entry.2 (observed.get? entry.1) with h | ⟨value, reason, h, -⟩
    · rw [h]
      exact List.nil_sublist _
    · rw [h]
      exact List.Sublist.refl _

theorem mem_updates_planDisks {id : UInt32} {desired observed : Dict Disk} {i : Intent}
    (h : i ∈ (planDisks id desired observed).updates) :
    ∃ field slot value reason, i = .update field slot value reason ∧ reason ≠ .cloudInitAttach := by
  rw [updates_planDisks] at h
  obtain ⟨entry, -, hi⟩ := List.mem_flatMap.1 h
  rcases updates_changeDisk id entry.1 entry.2 (observed.get? entry.1) with hu | ⟨value, reason, hu, hne⟩
  · rw [hu] at hi
    cases hi
  · rw [hu] at hi
    exact ⟨_, _, _, _, List.mem_singleton.1 hi, hne⟩

/-! ## The whole pass -/

variable {desired : Desired} {observed : Observed} {copied : Bool}

/-- The ways in which a pass switches an instance on and off. -/
def powerSteps : List Intent :=
  [⟨.shutdown, .stoppedWindow, .nothing⟩, ⟨.start, .stoppedWindow, .stoppedWindow⟩,
    ⟨.shutdown, .powerState, .nothing⟩, ⟨.start, .powerState, .nothing⟩,
    ⟨.reboot, .restartRequired, .configApplied⟩]

/-- Around its changes, a pass moves the instance and switches it on and off, and does nothing else. -/
theorem around_changes_cases {s : ScheduleInput} {i : Intent}
    (h : i ∈ s.migration ++ s.opening ∨ i ∈ s.alignment ++ s.restart) :
    (∃ node, i = ⟨.migrate node, .nodeChange, .nothing⟩) ∨ i ∈ powerSteps := by
  simp only [List.mem_append] at h
  rcases h with (h | h) | (h | h)
  · obtain ⟨node, -, rfl⟩ := List.mem_map.1 h
    exact .inl ⟨node, rfl⟩
  · rw [ScheduleInput.opening] at h
    split_ifs at h <;> simp_all [powerSteps]
  · rw [ScheduleInput.alignment] at h
    split_ifs at h <;> simp_all [powerSteps]
  · rw [ScheduleInput.restart] at h
    split_ifs at h <;> simp_all [powerSteps]

theorem isLifecycle_around_changes {s : ScheduleInput} {i : Intent}
    (h : i ∈ s.migration ++ s.opening ∨ i ∈ s.alignment ++ s.restart) : i.op.isLifecycle = true := by
  obtain ⟨node, rfl⟩ | hpower := around_changes_cases h
  · rfl
  · exact (by decide : ∀ i ∈ powerSteps, i.op.isLifecycle = true) i hpower

theorem Operation.param?_of_isLifecycle {op : Operation} (h : op.isLifecycle = true) : op.param? = none := by
  cases op <;> first | rfl | cases h

theorem param?_around_changes {s : ScheduleInput} {i : Intent}
    (h : i ∈ s.migration ++ s.opening ∨ i ∈ s.alignment ++ s.restart) : i.op.param? = none :=
  Operation.param?_of_isLifecycle (isLifecycle_around_changes h)

theorem intents_schedule (s : ScheduleInput) :
    (schedule s).intents = (s.migration ++ s.opening) ++ s.changes ++ (s.alignment ++ s.restart) := by
  simp only [schedule, List.append_assoc]

/-- What else a pass does stands among its changes. -/
theorem mem_changes_of_not_isLifecycle {s : ScheduleInput} {i : Intent} (h : i ∈ (schedule s).intents)
    (hi : i.op.isLifecycle = false) : i ∈ s.changes := by
  rw [intents_schedule, List.mem_append, List.mem_append] at h
  rcases h with (h | h) | h
  · exact absurd (isLifecycle_around_changes (.inl h)) (by simp [hi])
  · exact h
  · exact absurd (isLifecycle_around_changes (.inr h)) (by simp [hi])

theorem mem_changes_of_param? {s : ScheduleInput} {i : Intent} (h : i ∈ (schedule s).intents) {param : String}
    (hp : i.op.param? = some param) : i ∈ s.changes := by
  refine mem_changes_of_not_isLifecycle h (Bool.eq_false_of_not_eq_true fun hi => ?_)
  rw [Operation.param?_of_isLifecycle hi] at hp
  cases hp

theorem mem_changes_iff {s : ScheduleInput} {i : Intent} :
    i ∈ s.changes ↔
      (∃ j ∈ s.cloudInit.detach, i = s.inWindow j) ∨ (∃ j ∈ s.cloudInit.attach, i = s.inWindow j) ∨
        i ∈ s.cloudInit.updates ∨ i ∈ s.config ∨ i ∈ s.disks.updates ∨
        (∃ j ∈ s.disks.moves, i = s.inWindow j) ∨ i ∈ s.disks.resizes := by
  simp only [ScheduleInput.changes, List.mem_append, List.mem_map, Option.mem_toList, Option.mem_def,
    or_assoc, eq_comm]

theorem mem_schedule_of_mem_changes {s : ScheduleInput} {i : Intent} (h : i ∈ s.changes) :
    i ∈ (schedule s).intents := by
  simp [schedule, h]

theorem setParams_eq_nil {intents : List Intent} (h : ∀ i ∈ intents, i.op.stored? = none) :
    setParams intents = [] := by
  rw [setParams, Desired.settings, List.map_eq_nil_iff, List.filterMap_eq_nil_iff]
  intro i hi
  have hnone := h i hi
  cases hop : i.op with
  | update field param value => rw [hop] at hnone; cases hnone
  | _ => rfl

theorem Operation.stored?_of_param? {op : Operation} (h : op.param? = none) : op.stored? = none := by
  cases op <;> simp [Operation.param?, Operation.stored?] at h ⊢

theorem setParams_schedule (s : ScheduleInput) : setParams (schedule s).intents = setParams s.changes := by
  have haround {intents : List Intent} (h : ∀ i ∈ intents, i ∈ s.migration ++ s.opening ∨
      i ∈ s.alignment ++ s.restart) :
      setParams intents = [] :=
    setParams_eq_nil fun i hi => Operation.stored?_of_param? (param?_around_changes (h i hi))
  rw [intents_schedule, setParams_append, setParams_append, haround fun i hi => .inl hi,
    haround fun i hi => .inr hi, List.nil_append, List.append_nil]

theorem setParams_inWindow (s : ScheduleInput) (intents : List Intent) :
    setParams (intents.map s.inWindow) = setParams intents := by
  rw [setParams, Desired.settings, List.filterMap_map]
  rfl

/-! ## Where the drive goes -/

/-- The slot in which the first-boot drive is attached anew, if it is. -/
def attachSlot? (want found : Option CloudInit) : Option String :=
  (want.filter fun want => needsRelocation want found).map fun want => targetSlot want found

/-- The slot that the drive leaves then. -/
def detachSlot? (want found : Option CloudInit) : Option String :=
  (want.filter fun want => needsRelocation want found).bind fun _ => found.bind (·.interface)

theorem attachSlot?_eq_some_iff {want found : Option CloudInit} {slot : String} :
    attachSlot? want found = some slot ↔
      ∃ w, want = some w ∧ needsRelocation w found = true ∧ targetSlot w found = slot := by
  simp [attachSlot?, Option.map_eq_some_iff, Option.filter_eq_some_iff, and_assoc]

theorem attach_planCloudInit (want found : Option CloudInit) (occupied : NameSet) :
    (planCloudInit want found occupied).attach =
      (want.filter fun want => needsRelocation want found).map fun want => attachIntent want found := by
  cases want with
  | none => rfl
  | some want => cases hr : needsRelocation want found <;> simp [planCloudInit, hr, Option.filter_some]

theorem mem_attach {want found : Option CloudInit} {occupied : NameSet} {i : Intent}
    (h : i ∈ (planCloudInit want found occupied).attach) :
    i.reason = .cloudInitAttach ∧ i.op.param? = attachSlot? want found := by
  rw [attach_planCloudInit] at h
  obtain ⟨w, hw, rfl⟩ := Option.map_eq_some_iff.1 h
  exact ⟨rfl, by rw [attachSlot?, hw]; rfl⟩

theorem attach_of_attachSlot? {want found : Option CloudInit} {slot : String} (occupied : NameSet)
    (h : attachSlot? want found = some slot) : ∃ i, (planCloudInit want found occupied).attach = some i := by
  obtain ⟨w, hw, -⟩ := Option.map_eq_some_iff.1 h
  exact ⟨_, by rw [attach_planCloudInit, hw, Option.map_some]⟩

theorem setParams_attach (want found : Option CloudInit) (occupied : NameSet) :
    setParams (planCloudInit want found occupied).attach.toList = (attachSlot? want found).toList := by
  rw [attach_planCloudInit, attachSlot?]
  cases want.filter fun want => needsRelocation want found <;> rfl

/-- Only the slots that the drive leaves and takes are emptied. -/
theorem mem_detach {want found : Option CloudInit} {occupied : NameSet} {i : Intent}
    (h : i ∈ (planCloudInit want found occupied).detach) :
    ∃ slot, i = .delete slot .cloudInitDetach ∧
      (attachSlot? want found = some slot ∨ detachSlot? want found = some slot) := by
  cases want with
  | none => cases h
  | some want =>
    cases hr : needsRelocation want found with
    | false => simp [planCloudInit, hr] at h
    | true =>
      have hd : i ∈ detachIntents want found occupied := by simpa [planCloudInit, hr] using h
      have hleave : detachSlot? (some want) found = found.bind (·.interface) := by
        simp [detachSlot?, hr, Option.filter_some]
      have htake : attachSlot? (some want) found = some (targetSlot want found) := by
        simp [attachSlot?, hr, Option.filter_some]
      rcases List.mem_append.1 hd with hd | hd
      · obtain ⟨slot, hslot, rfl⟩ := List.mem_map.1 hd
        exact ⟨slot, rfl, .inr (by rw [hleave, Option.mem_toList.1 hslot])⟩
      · split at hd
        · exact ⟨_, List.mem_singleton.1 hd, .inl htake⟩
        · cases hd

theorem detach_of_detachSlot? {want found : Option CloudInit} {slot : String} (occupied : NameSet)
    (h : detachSlot? want found = some slot) :
    .delete slot .cloudInitDetach ∈ (planCloudInit want found occupied).detach := by
  cases want with
  | none => cases h
  | some want =>
    cases hr : needsRelocation want found with
    | false => simp [detachSlot?, hr, Option.filter_some] at h
    | true =>
      have hslot : found.bind (·.interface) = some slot := by
        simpa [detachSlot?, hr, Option.filter_some] using h
      simp [planCloudInit, hr, detachIntents, hslot]

/-! ## Slots of a declared virtual machine -/

section Machine

variable {policy : Policy} {doc : Document} {remote : Remote} {identity : Identity} {status : Status}

theorem isDriveSlot_of_disks (hd : doc.desired policy = .ok desired) (hk : desired.kind = .vm) {slot : String}
    (h : slot ∈ desired.config.disks.keys) : IsDriveSlot slot := by
  obtain ⟨disk, hdisk⟩ := Option.isSome_iff_exists.1 (Dict.mem_keys_iff.1 h)
  exact (Document.disks_spec hd hdisk).2.2.2 hk

theorem parseInterface?_driveSlots : ∀ slot ∈ driveSlots, (parseInterface? slot).isSome = true := by
  decide +kernel

theorem isDriveSlot_of_found (ho : remote.observe identity status = .ok observed) (hi : identity.kind = .vm)
    {slot : String} (h : observed.config.cloudInit.bind (·.interface) = some slot) : IsDriveSlot slot := by
  obtain ⟨drives, firmware, hdrives, -, -, rfl⟩ := (Remote.observe_vm_eq_ok_iff hi).1 ho
  obtain ⟨found, hfound, hslot⟩ := Option.bind_eq_some_iff.1 h
  obtain ⟨⟨name, drive⟩, hdrive, rfl⟩ := Option.map_eq_some_iff.1 hfound
  obtain rfl : name = slot := Option.some.inj hslot
  exact .inl (parseInterface?_driveSlots name
    ((Remote.mem_drivesIn_iff hdrives).1 (List.mem_of_find?_eq_some hdrive)).1)

/-- A slot that the document names for the drive is a drive's, and no disk is declared there. -/
theorem declared_interface (hd : doc.desired policy = .ok desired) (hk : desired.kind = .vm)
    {want : CloudInit} (hw : desired.config.cloudInit = some want) {slot : String}
    (hs : want.interface = some slot) :
    (parseInterface? slot).isSome = true ∧ slot ∉ desired.config.disks.keys := by
  rw [Document.cloudInit_of_vm hd hk] at hw
  obtain ⟨b, hb, rfl⟩ := Option.map_eq_some_iff.1 hw
  obtain ⟨-, -, system, disks, nics, cloudInit, -, -, -, hcloud, rfl⟩ := Document.desired_eq_ok_iff.1 hd
  obtain ⟨⟨bus, n, hparse, -⟩, hfree⟩ := (Document.cloudInitOf_eq_ok_iff.1 hcloud).1 hk b hb slot hs
  exact ⟨by rw [hparse]; rfl, hfree⟩

theorem isDriveSlot_of_attach (hd : doc.desired policy = .ok desired)
    (ho : remote.observe identity status = .ok observed) (hi : identity.kind = .vm) {slot : String}
    (h : attachSlot? desired.config.cloudInit observed.config.cloudInit = some slot) : IsDriveSlot slot := by
  obtain ⟨want, hw, -, rfl⟩ := attachSlot?_eq_some_iff.1 h
  rw [targetSlot]
  cases hs : want.interface with
  | some slot =>
    cases hk : desired.kind with
    | vm => exact .inl (declared_interface hd hk hw hs).1
    | container =>
      rw [Document.interface_of_container hd hk hw] at hs
      cases hs
  | none =>
    cases hf : observed.config.cloudInit.bind (·.interface) with
    | some slot => exact isDriveSlot_of_found ho hi hf
    | none => exact (by decide : IsDriveSlot CloudInit.defaultSlot)

theorem isDriveSlot_of_detach (ho : remote.observe identity status = .ok observed) (hi : identity.kind = .vm)
    {slot : String} (h : detachSlot? desired.config.cloudInit observed.config.cloudInit = some slot) :
    IsDriveSlot slot := by
  obtain ⟨-, -, hfound⟩ := Option.bind_eq_some_iff.1 h
  exact isDriveSlot_of_found ho hi hfound

theorem passCloudInit_vm (desired : Desired) (ho : remote.observe identity status = .ok observed)
    (hi : identity.kind = .vm) :
    passCloudInit desired observed =
      planCloudInit desired.config.cloudInit observed.config.cloudInit observed.occupied := by
  rw [passCloudInit, (Remote.observe_spec ho).1, hi]

theorem mem_detach_pass (hd : doc.desired policy = .ok desired)
    (ho : remote.observe identity status = .ok observed) {i : Intent}
    (h : i ∈ (passCloudInit desired observed).detach) :
    ∃ slot, i = .delete slot .cloudInitDetach ∧ IsDriveSlot slot := by
  cases hi : identity.kind with
  | vm =>
    rw [passCloudInit_vm desired ho hi] at h
    obtain ⟨slot, rfl, hslot⟩ := mem_detach h
    exact ⟨slot, rfl, hslot.elim (isDriveSlot_of_attach hd ho hi) (isDriveSlot_of_detach ho hi)⟩
  | container =>
    rw [passCloudInit, (Remote.observe_spec ho).1, hi] at h
    cases h

theorem mem_attach_pass (hd : doc.desired policy = .ok desired)
    (ho : remote.observe identity status = .ok observed) {i : Intent}
    (h : i ∈ (passCloudInit desired observed).attach) :
    ∃ field slot value, i = .update field slot value .cloudInitAttach ∧ IsDriveSlot slot := by
  cases hi : identity.kind with
  | vm =>
    rw [passCloudInit_vm desired ho hi] at h
    have hparam := (mem_attach h).2
    rw [attach_planCloudInit] at h
    obtain ⟨want, -, rfl⟩ := Option.map_eq_some_iff.1 h
    exact ⟨_, _, _, rfl, isDriveSlot_of_attach hd ho hi hparam.symm⟩
  | container =>
    rw [passCloudInit, (Remote.observe_spec ho).1, hi] at h
    cases h

/-- The drive is detached and attached where drives can be. -/
theorem isDriveSlot_of_relocation (hd : doc.desired policy = .ok desired)
    (ho : remote.observe identity status = .ok observed) {i : Intent}
    (h : i ∈ (passCloudInit desired observed).detach ∨ i ∈ (passCloudInit desired observed).attach)
    {slot : String} (hs : i.op.param? = some slot) : IsDriveSlot slot := by
  rcases h with h | h
  · obtain ⟨left, rfl, hdrive⟩ := mem_detach_pass hd ho h
    rwa [← Option.some.inj hs]
  · obtain ⟨field, taken, value, rfl, hdrive⟩ := mem_attach_pass hd ho h
    rwa [← Option.some.inj hs]

theorem touched_passDiff (hd : doc.desired policy = .ok desired) (copied : Bool)
    (ho : remote.observe identity status = .ok observed) :
    (touched (passDiff desired observed copied).intents).Sublist (diffParams identity.kind) := by
  rw [passDiff_eq ho, intents_diffConfig ho rfl (Document.config_declared hd).nics]
  exact (ParamRule.touched_steps names_diffRules remote).trans (params_diffRules _ _)

/-- The first-boot settings and the comparison of a pass let the slots of drives alone. -/
theorem not_isDriveSlot_of_touched (hd : doc.desired policy = .ok desired)
    (ho : remote.observe identity status = .ok observed) (hi : identity.kind = .vm) {param : String}
    (h : param ∈ touched ((passCloudInit desired observed).updates ++
      (passDiff desired observed copied).intents)) :
    ¬IsDriveSlot param := by
  rw [touched_append] at h
  rcases List.mem_append.1 h with h | h
  · rw [passCloudInit_vm desired ho hi] at h
    cases hw : desired.config.cloudInit with
    | none => rw [hw] at h; cases h
    | some want =>
      rw [hw] at h
      exact not_isDriveSlot_cloudInitParams _ _ ((touched_cloudInitUpdates _ _).subset h)
  · exact not_isDriveSlot_diffParams _ (hi ▸ (touched_passDiff hd copied ho).subset h)

/-- The steps of a pass that empty the slot of a declared disk, or attach the first-boot drive there. -/
def TakesDisk (disks : Dict Disk) (i : Intent) : Prop :=
  ∃ slot ∈ disks.keys, i.op = .delete slot ∨ (i.reason = .cloudInitAttach ∧ i.op.param? = some slot)

theorem takesDisk_iff (hd : doc.desired policy = .ok desired) (hk : desired.kind = .vm)
    (ho : remote.observe identity status = .ok observed) (hi : identity.kind = .vm) :
    (∃ i ∈ (planPass desired observed copied).plan.intents, TakesDisk desired.config.disks i) ↔
      ∃ slot ∈ desired.config.disks.keys,
        attachSlot? desired.config.cloudInit observed.config.cloudInit = some slot ∨
          detachSlot? desired.config.cloudInit observed.config.cloudInit = some slot := by
  have hcloud : (passInput desired observed copied).cloudInit = _ := passCloudInit_vm desired ho hi
  constructor
  · rintro ⟨i, hmem, slot, hslot, htakes⟩
    refine ⟨slot, hslot, ?_⟩
    have hparam : i.op.param? = some slot := by
      rcases htakes with h | ⟨-, h⟩
      · rw [h]
        rfl
      · exact h
    have hdrive := isDriveSlot_of_disks hd hk hslot
    have hother {rest : List Intent} (h : i ∈ rest)
        (hr : ∀ j ∈ rest, j ∈ (passCloudInit desired observed).updates ++
          (passDiff desired observed copied).intents) :
        False :=
      not_isDriveSlot_of_touched hd ho hi (mem_touched.2 ⟨i, hr i h, hparam⟩) hdrive
    rcases mem_changes_iff.1 (mem_changes_of_param? hmem hparam) with h | h | h | h | h | h | h
    · obtain ⟨j, hj, rfl⟩ := h
      rw [hcloud] at hj
      obtain ⟨left, rfl, hleft⟩ := mem_detach hj
      obtain rfl : left = slot := Option.some.inj hparam
      exact hleft
    · obtain ⟨j, hj, rfl⟩ := h
      rw [hcloud] at hj
      exact .inl ((mem_attach hj).2.symm.trans hparam)
    · exact absurd h fun h => hother h fun j hj => List.mem_append_left _ hj
    · exact absurd h fun h => hother h fun j hj => List.mem_append_right _ hj
    · obtain ⟨field, param, value, reason, rfl, hreason⟩ := mem_updates_planDisks h
      rcases htakes with h | ⟨h, -⟩
      · cases h
      · exact absurd h hreason
    · obtain ⟨j, hj, rfl⟩ := h
      exact absurd ((param?_planDisks (.inl hj)).symm.trans hparam) (by simp)
    · exact absurd ((param?_planDisks (.inr h)).symm.trans hparam) (by simp)
  · rintro ⟨slot, hslot, htake | hleave⟩
    · obtain ⟨i, hattach⟩ := attach_of_attachSlot? observed.occupied htake
      obtain ⟨hreason, hparam⟩ := mem_attach hattach
      refine ⟨(passInput desired observed copied).inWindow i,
        mem_schedule_of_mem_changes (mem_changes_iff.2 ?_), slot,
        hslot, .inr ⟨hreason, hparam.trans htake⟩⟩
      exact .inr (.inl ⟨i, hcloud ▸ hattach, rfl⟩)
    · have hdetach := detach_of_detachSlot? observed.occupied hleave
      refine ⟨(passInput desired observed copied).inWindow (.delete slot .cloudInitDetach),
        mem_schedule_of_mem_changes (mem_changes_iff.2 ?_), slot, hslot, .inl rfl⟩
      exact .inl ⟨_, hcloud ▸ hdetach, rfl⟩

theorem setParams_planPass (ho : remote.observe identity status = .ok observed) (hi : identity.kind = .vm) :
    setParams (planPass desired observed copied).plan.intents =
      (attachSlot? desired.config.cloudInit observed.config.cloudInit).toList ++
        setParams ((passCloudInit desired observed).updates ++ (passDiff desired observed copied).intents) ++
        setParams (passDisks desired observed).updates := by
  have hcloud := passCloudInit_vm desired ho hi
  have hdetach : setParams (passCloudInit desired observed).detach = [] := by
    refine setParams_eq_nil fun i hmem => ?_
    obtain ⟨slot, rfl, -⟩ := mem_detach (hcloud ▸ hmem)
    rfl
  have hattach : setParams (passCloudInit desired observed).attach.toList =
      (attachSlot? desired.config.cloudInit observed.config.cloudInit).toList := by
        rw [hcloud, setParams_attach]
  have hmoves : setParams (passDisks desired observed).moves = [] :=
    setParams_eq_nil fun i hmem => Operation.stored?_of_param? (param?_planDisks (.inl hmem))
  have hresizes : setParams (passDisks desired observed).resizes = [] :=
    setParams_eq_nil fun i hmem => Operation.stored?_of_param? (param?_planDisks (.inr hmem))
  rw [planPass, setParams_schedule]
  simp only [ScheduleInput.changes, passInput, setParams_append, setParams_inWindow, hdetach, hattach,
    hmoves, hresizes, List.nil_append, List.append_nil, List.append_assoc]

/-- Apart from the drive, the parts of a pass set different parameters, the disks those of their slots. -/
theorem nodup_setParams_parts (copied : Bool) (hd : doc.desired policy = .ok desired)
    (hk : desired.kind = .vm)
    (ho : remote.observe identity status = .ok observed) (hi : identity.kind = .vm) :
    (setParams ((passCloudInit desired observed).updates ++ (passDiff desired observed copied).intents) ++
        setParams (passDisks desired observed).updates).Nodup := by
  have hdisks : (setParams (passDisks desired observed).updates).Sublist desired.config.disks.keys :=
    (setParams_sublist_touched _).trans (touched_planDisks _ _ _)
  refine List.Nodup.append ?_ (desired.config.disks.nodup_keys.sublist hdisks) fun param hother hdisk => ?_
  · have hdiff := touched_passDiff hd copied ho
    rw [hi] at hdiff
    refine List.Nodup.sublist (setParams_sublist_touched _) ?_
    rw [touched_append, passCloudInit_vm desired ho hi]
    cases hw : desired.config.cloudInit with
    | none => exact (nodup_diffParams .vm).sublist hdiff
    | some want =>
      have hinit := touched_cloudInitUpdates want observed.config.cloudInit
      exact List.Nodup.append ((nodup_cloudInitParams _).sublist hinit) ((nodup_diffParams .vm).sublist hdiff)
        fun param hp hp' => disjoint_cloudInitParams _ (hinit.subset hp) (hdiff.subset hp')
  · exact not_isDriveSlot_of_touched hd ho hi ((setParams_sublist_touched _).subset hother)
      (isDriveSlot_of_disks hd hk (hdisks.subset hdisk))

/-- A pass sets a parameter twice exactly where it attaches the first-boot drive in the slot of a disk that
it adds or changes. -/
theorem not_nodup_setParams_iff (hd : doc.desired policy = .ok desired) (hk : desired.kind = .vm)
    (ho : remote.observe identity status = .ok observed) (hi : identity.kind = .vm) :
    ¬(setParams (planPass desired observed copied).plan.intents).Nodup ↔
      ∃ slot ∈ setParams (passDisks desired observed).updates,
        attachSlot? desired.config.cloudInit observed.config.cloudInit = some slot := by
  have hparts := nodup_setParams_parts copied hd hk ho hi
  rw [setParams_planPass ho hi, List.append_assoc]
  cases hslot : attachSlot? desired.config.cloudInit observed.config.cloudInit with
  | none => simp [hparts]
  | some slot =>
    have hdrive := isDriveSlot_of_attach hd ho hi hslot
    have hother : slot ∉
        setParams ((passCloudInit desired observed).updates ++ (passDiff desired observed copied).intents) :=
      fun h => not_isDriveSlot_of_touched hd ho hi ((setParams_sublist_touched _).subset h) hdrive
    rw [Option.toList_some, List.singleton_append, List.nodup_cons, List.mem_append]
    simp [hparts, hother]

/-- A pass over a virtual machine takes the slot of a declared disk exactly where it attaches the first-boot
drive there, or moves it away from there. It never attaches it there if the document names the drive's slot:
only the slot that the drive has, or the default one, is taken without a look at the disks. Two changes of a
pass set the same parameter exactly where that disk is added or changed as well. -/
theorem drive_takes_disk_iff (copied : Bool) (hd : doc.desired policy = .ok desired) (hk : desired.kind = .vm)
    (hi : identity.kind = .vm) (ho : remote.observe identity status = .ok observed) :
    let intents := (planPass desired observed copied).plan.intents
    let taken := attachSlot? desired.config.cloudInit observed.config.cloudInit
    let left := detachSlot? desired.config.cloudInit observed.config.cloudInit
    ((∃ i ∈ intents, TakesDisk desired.config.disks i) ↔
        ∃ slot ∈ desired.config.disks.keys, taken = some slot ∨ left = some slot) ∧
      (∀ slot ∈ desired.config.disks.keys, taken = some slot →
        ∀ want ∈ desired.config.cloudInit, want.interface = none ∧
          slot = (observed.config.cloudInit.bind (·.interface)).getD CloudInit.defaultSlot) ∧
      (¬(setParams intents).Nodup ↔
        ∃ slot ∈ setParams (passDisks desired observed).updates, taken = some slot) := by
  refine ⟨takesDisk_iff hd hk ho hi, fun slot hslot htaken want hwant => ?_,
    not_nodup_setParams_iff hd hk ho hi⟩
  obtain ⟨w, hw, -, htarget⟩ := attachSlot?_eq_some_iff.1 htaken
  obtain rfl : w = want := Option.some.inj (hw.symm.trans hwant)
  have hnone : w.interface = none := by
    cases hs : w.interface with
    | none => rfl
    | some declared =>
      obtain rfl : declared = slot := by rw [← htarget, targetSlot, hs]; rfl
      exact absurd hslot (declared_interface hd hk hw hs).2
  refine ⟨hnone, ?_⟩
  rw [← htarget, targetSlot, hnone]
  cases observed.config.cloudInit.bind (·.interface) <;> rfl

end Machine

/-- A machine with a disk in the default slot of the drive, and with a drive that has no slot. -/
def crowdedServer : Document where
  node := "pve1"
  id := some 100
  system := some { osType := some "l26" }
  disks := [{ interface := "ide2", sizeGib := some 8 }]
  init := some {}

def crowdedServerFound : Remote := .ofList [("ide2", .string "local-lvm:vm-100-disk-0,size=8G")]

theorem drive_takes_disk_crowdedServer : ∃ desired observed, crowdedServer.desired {} = .ok desired ∧
    desired.kind = .vm ∧ crowdedServerFound.observe ⟨"pve1", 100, .vm⟩ ⟨.stopped, none⟩ = .ok observed ∧
    ∃ i ∈ (planPass desired observed false).plan.intents, TakesDisk desired.config.disks i := by
  obtain ⟨desired, hd⟩ : ∃ desired, crowdedServer.desired {} = .ok desired := ⟨_, rfl⟩
  have hk : desired.kind = .vm := by cases hd; rfl
  have hdrive : (crowdedServerFound.observe ⟨"pve1", 100, .vm⟩ ⟨.stopped, none⟩).toOption.map
      (·.config.cloudInit) = some none := by decide +kernel
  cases ho : crowdedServerFound.observe ⟨"pve1", 100, .vm⟩ ⟨.stopped, none⟩ with
  | error failure => rw [ho] at hdrive; cases hdrive
  | ok observed =>
    have hnone : observed.config.cloudInit = none := by
      rw [ho] at hdrive
      exact Option.some.inj hdrive
    refine ⟨desired, observed, hd, hk, rfl, ((drive_takes_disk_iff false hd hk rfl ho).1).2
      ⟨"ide2", ?_, .inl ?_⟩⟩
    · cases hd
      decide +kernel
    · rw [hnone]
      cases hd
      decide +kernel

end Plan

end Steward
