/-
The policy of disks, slot by slot: what is done in a slot follows from the disk that is declared for it and
the one that it holds, nothing is ever taken away, and every difference is either made up for or reported
(`planDisks_policy`). A disk of which something is refused is not let alone altogether, though: the other
changes that it asks for are made (`violated_disk_untouched_iff`).
-/
import Mathlib
import Steward.Proofs.PowerHistory

namespace Steward

/-! ## Steps by their slots -/

/-- The slot of a disk that a step names. -/
def Operation.slot? : Operation → Option String
  | .update _ param _ | .delete param => some param
  | .moveDisk interface .. | .resizeDisk interface _ => some interface
  | .reboot | .shutdown | .start | .stop | .migrate _ => none

namespace DiskPlan

/-- A plan without the steps that are not chosen. -/
def choose (p : DiskPlan) (chosen : Intent → Bool) : DiskPlan :=
  { p with
    updates := p.updates.filter chosen
    moves := p.moves.filter chosen
    resizes := p.resizes.filter chosen }

/-- What is done in a slot. -/
def inSlot (p : DiskPlan) (slot : String) : DiskPlan := p.choose fun i => i.op.slot? == some slot

/-- What is done in all other slots. -/
def outsideSlot (p : DiskPlan) (slot : String) : DiskPlan := p.choose fun i => i.op.slot? != some slot

/-- Plans that do the same, whatever they report. -/
structure SameSteps (p q : DiskPlan) : Prop where
  updates : p.updates = q.updates
  moves : p.moves = q.moves
  resizes : p.resizes = q.resizes

end DiskPlan

theorem filter_flatMap_slot {α : Type} {entries : List (String × α)} (steps : String → α → List Intent)
    (hs : ∀ slot a, ∀ i ∈ steps slot a, i.op.slot? = some slot) (hn : (entries.map (·.1)).Nodup)
    (slot : String) :
    (entries.flatMap fun e => steps e.1 e.2).filter (fun i => i.op.slot? == some slot) =
      (lookup? entries slot).elim [] (steps slot) := by
  induction entries with
  | nil => rfl
  | cons e entries ih =>
    obtain ⟨key, a⟩ := e
    rw [List.map_cons, List.nodup_cons] at hn
    rw [List.flatMap_cons, List.filter_append, ih hn.2, lookup?_cons]
    by_cases hk : key = slot
    · subst hk
      have hall : (steps key a).filter (fun i => i.op.slot? == some key) = steps key a :=
        List.filter_eq_self.2 fun i hi => by simp [hs key a i hi]
      rw [hall, lookup?_eq_none_iff.2 hn.1, if_pos rfl]
      exact List.append_nil _
    · have hnone : (steps key a).filter (fun i => i.op.slot? == some slot) = [] :=
        List.filter_eq_nil_iff.2 fun i hi => by simp [hs key a i hi, hk]
      rw [hnone, if_neg hk]
      rfl

theorem filter_flatMap_other {α : Type} (steps : String → α → List Intent)
    (hs : ∀ slot a, ∀ i ∈ steps slot a, i.op.slot? = some slot) (entries : List (String × α))
    (slot : String) :
    (entries.flatMap fun e => steps e.1 e.2).filter (fun i => i.op.slot? != some slot) =
      (entries.filter fun e => e.1 != slot).flatMap fun e => steps e.1 e.2 := by
  induction entries with
  | nil => rfl
  | cons e entries ih =>
    obtain ⟨key, a⟩ := e
    rw [List.flatMap_cons, List.filter_append, ih, List.filter_cons]
    by_cases hk : key = slot
    · have hnone : (steps key a).filter (fun i => i.op.slot? != some slot) = [] :=
        List.filter_eq_nil_iff.2 fun i hi => by simp [hs key a i hi, hk]
      rw [hnone, if_neg (by simpa using hk)]
      rfl
    · have hall : (steps key a).filter (fun i => i.op.slot? != some slot) = steps key a :=
        List.filter_eq_self.2 fun i hi => by simp [hs key a i hi, hk]
      rw [hall, if_pos (by simpa using hk), List.flatMap_cons]

/-! ## What becomes of a disk -/

namespace Disk

variable (id : UInt32) (want found : Disk)

/-- A data disk of the instance `id` that is declared larger than it is. -/
def Grows : Prop := found.sizeGib < want.sizeGib ∧ want.diskClass = .data ∧ found.isOwnedBy id = true

/-- A disk of the instance `id` that is declared in another store. -/
def Relocates : Prop := want.datastore ≠ found.datastore ∧ found.isOwnedBy id = true

/-- A data disk that is declared to behave in another way. -/
def Retunes : Prop := want.diskClass = .data ∧ want.options ≠ found.options

instance : Decidable (want.Grows id found) := inferInstanceAs (Decidable (_ ∧ _))

instance : Decidable (want.Relocates id found) := inferInstanceAs (Decidable (_ ∧ _))

instance : Decidable (want.Retunes found) := inferInstanceAs (Decidable (_ ∧ _))

/-- What is refused of a size that is declared for the disk in a slot, and how that is reported. -/
inductive SizeRefused (slot : String) : Failure → Prop
  | shrink (h : want.sizeGib < found.sizeGib) : SizeRefused slot (.unsupported ("shrinking disk " ++ slot ++
      " from " ++ Plan.gibText found.sizeGib ++ " to " ++ Plan.gibText want.sizeGib ++ " is not supported"))
  | fixed (h : found.sizeGib < want.sizeGib) (hclass : want.diskClass ≠ .data) :
      SizeRefused slot (.unsupported ("resizing " ++ slot ++ " is not supported"))
  | foreign (h : found.sizeGib < want.sizeGib) (hclass : want.diskClass = .data)
      (howner : found.isOwnedBy id = false) : SizeRefused slot (.ownership "resize" found.volume id)

/-- A disk of another instance is not moved. -/
inductive MoveRefused : Failure → Prop
  | foreign (h : want.datastore ≠ found.datastore) (howner : found.isOwnedBy id = false) :
      MoveRefused (.ownership "move" found.volume id)

/-- A declared disk that breaks the policy: it is smaller than the disk that is there, or it changes the
size of what holds no data, or the size or the store of what belongs to another instance. -/
def Violates : Prop :=
  want.sizeGib < found.sizeGib ∨ (want.sizeGib ≠ found.sizeGib ∧ want.diskClass ≠ .data) ∨
    ((want.sizeGib ≠ found.sizeGib ∨ want.datastore ≠ found.datastore) ∧ found.isOwnedBy id = false)

instance : Decidable (want.Violates id found) := inferInstanceAs (Decidable (_ ∨ _))

variable {id want found}

/-- A size that differs is either grown to or refused. -/
theorem grows_or_refused (id : UInt32) (h : want.sizeGib ≠ found.sizeGib) (slot : String) :
    want.Grows id found ∨ ∃ failure, SizeRefused id want found slot failure := by
  rcases UInt64.lt_or_lt_of_ne h with hless | hmore
  · exact .inr ⟨_, .shrink hless⟩
  · by_cases hclass : want.diskClass = .data
    · cases howner : found.isOwnedBy id with
      | true => exact .inl ⟨hmore, hclass, howner⟩
      | false => exact .inr ⟨_, .foreign hmore hclass howner⟩
    · exact .inr ⟨_, .fixed hmore hclass⟩

theorem relocates_or_refused (id : UInt32) (h : want.datastore ≠ found.datastore) :
    want.Relocates id found ∨ MoveRefused id want found (.ownership "move" found.volume id) := by
  cases howner : found.isOwnedBy id with
  | true => exact .inl ⟨h, howner⟩
  | false => exact .inr (.foreign h howner)

/-- The policy is broken exactly where something is refused. -/
theorem violates_iff (slot : String) : want.Violates id found ↔
    ∃ failure, SizeRefused id want found slot failure ∨ MoveRefused id want found failure := by
  constructor
  · rintro (hless | ⟨hsize, hclass⟩ | ⟨hsize | hstore, howner⟩)
    · exact ⟨_, .inl (.shrink hless)⟩
    · rcases grows_or_refused id hsize slot with hgrows | ⟨failure, hrefused⟩
      · exact absurd hgrows.2.1 hclass
      · exact ⟨failure, .inl hrefused⟩
    · rcases grows_or_refused id hsize slot with hgrows | ⟨failure, hrefused⟩
      · exact absurd (howner.symm.trans hgrows.2.2) (by decide)
      · exact ⟨failure, .inl hrefused⟩
    · exact ⟨_, .inr (.foreign hstore howner)⟩
  · rintro ⟨failure, (hless | ⟨hmore, hclass⟩ | ⟨hmore, -, howner⟩) | ⟨hstore, howner⟩⟩
    · exact .inl hless
    · exact .inr (.inl ⟨(UInt64.ne_of_lt hmore).symm, hclass⟩)
    · exact .inr (.inr ⟨.inl (UInt64.ne_of_lt hmore).symm, howner⟩)
    · exact .inr (.inr ⟨.inr hstore, howner⟩)

theorem not_grows_of_violates (h : want.Violates id found) : ¬want.Grows id found := by
  rintro ⟨hmore, hclass, howner⟩
  rcases h with hless | ⟨-, hfixed⟩ | ⟨-, hforeign⟩
  · exact UInt64.lt_asymm hless hmore
  · exact hfixed hclass
  · exact absurd (howner.symm.trans hforeign) (by decide)

end Disk

namespace Plan

/-- The step that attaches a new disk. -/
def createStep (slot : String) (want : Disk) : Intent := .update (diskField slot) slot want.toText .create

/-- The step that writes the volume that is there with the declared options. -/
def retuneStep (slot : String) (want found : Disk) : Intent :=
  .update (diskField slot) slot { found with options := want.options }.toText .drift

def moveStep (slot : String) (want : Disk) : Intent :=
  ⟨.moveDisk slot want.datastore true, .diskMigration, .nothing⟩

def growStep (slot : String) (want : Disk) : Intent := ⟨.resizeDisk slot want.sizeGib, .diskGrowth, .nothing⟩

variable (id : UInt32) (slot : String) (want found : Disk)

/-- A change of size lets the disk grow, or is refused. -/
theorem resizeDisk_spec : (resizeDisk id slot want found).moves = [] ∧
    (resizeDisk id slot want found).resizes = (if want.Grows id found then [growStep slot want] else []) ∧
    ∀ failure, failure ∈ (resizeDisk id slot want found).failures ↔
      Disk.SizeRefused id want found slot failure := by
  by_cases hsame : want.sizeGib = found.sizeGib
  · have hgrows : ¬want.Grows id found := fun h => UInt64.ne_of_lt h.1 hsame.symm
    rw [resizeDisk, if_neg (hsame ▸ UInt64.lt_irrefl _), if_pos hsame, if_neg hgrows]
    refine ⟨rfl, rfl, fun failure => ⟨fun h => (List.not_mem_nil h).elim, fun h => ?_⟩⟩
    cases h with
    | shrink hless => exact absurd hsame (UInt64.ne_of_lt hless)
    | fixed hmore | foreign hmore => exact absurd hsame.symm (UInt64.ne_of_lt hmore)
  rcases UInt64.lt_or_lt_of_ne hsame with hless | hmore
  · have hgrows : ¬want.Grows id found := fun h => UInt64.lt_asymm hless h.1
    rw [resizeDisk, if_pos hless, if_neg hgrows]
    refine ⟨rfl, rfl, fun failure => ⟨fun h => ?_, fun h => ?_⟩⟩
    · obtain rfl := List.mem_singleton.1 h
      exact .shrink hless
    · cases h with
      | shrink => exact List.mem_singleton.2 rfl
      | fixed hmore | foreign hmore => exact absurd hless (UInt64.lt_asymm hmore)
  rw [resizeDisk, if_neg (UInt64.lt_asymm hmore), if_neg hsame]
  by_cases hclass : want.diskClass = .data
  · rw [if_neg (not_not_intro hclass)]
    cases howner : found.isOwnedBy id with
    | true =>
      rw [if_pos rfl, if_pos (show want.Grows id found from ⟨hmore, hclass, howner⟩)]
      refine ⟨rfl, rfl, fun failure => ⟨fun h => (List.not_mem_nil h).elim, fun h => ?_⟩⟩
      cases h with
      | shrink hless => exact absurd hless (UInt64.lt_asymm hmore)
      | fixed _ hfixed => exact absurd hclass hfixed
      | foreign _ _ hforeign => exact absurd (howner.symm.trans hforeign) (by decide)
    | false =>
      have hgrows : ¬want.Grows id found := fun h => absurd (howner.symm.trans h.2.2) (by decide)
      rw [if_neg (by decide), if_neg hgrows]
      refine ⟨rfl, rfl, fun failure => ⟨fun h => ?_, fun h => ?_⟩⟩
      · obtain rfl := List.mem_singleton.1 h
        exact .foreign hmore hclass howner
      · cases h with
        | shrink hless => exact absurd hless (UInt64.lt_asymm hmore)
        | fixed _ hfixed => exact absurd hclass hfixed
        | foreign => exact List.mem_singleton.2 rfl
  · have hgrows : ¬want.Grows id found := fun h => hclass h.2.1
    rw [if_pos hclass, if_neg hgrows]
    refine ⟨rfl, rfl, fun failure => ⟨fun h => ?_, fun h => ?_⟩⟩
    · obtain rfl := List.mem_singleton.1 h
      exact .fixed hmore hclass
    · cases h with
      | shrink hless => exact absurd hless (UInt64.lt_asymm hmore)
      | fixed => exact List.mem_singleton.2 rfl
      | foreign _ hdata => exact absurd hdata hclass

/-- A change of store moves the disk, or is refused. -/
theorem moveDisk_spec : (moveDisk id slot want found).resizes = [] ∧
    (moveDisk id slot want found).moves =
      (if want.Relocates id found then [moveStep slot want] else []) ∧
    ∀ failure, failure ∈ (moveDisk id slot want found).failures ↔
      Disk.MoveRefused id want found failure := by
  by_cases hsame : want.datastore = found.datastore
  · have hmoves : ¬want.Relocates id found := fun h => h.1 hsame
    rw [moveDisk, if_pos hsame, if_neg hmoves]
    refine ⟨rfl, rfl, fun failure => ⟨fun h => (List.not_mem_nil h).elim, fun h => ?_⟩⟩
    cases h with
    | foreign h => exact absurd hsame h
  · rw [moveDisk, if_neg hsame]
    cases howner : found.isOwnedBy id with
    | true =>
      rw [if_pos rfl, if_pos (show want.Relocates id found from ⟨hsame, howner⟩)]
      refine ⟨rfl, rfl, fun failure => ⟨fun h => (List.not_mem_nil h).elim, fun h => ?_⟩⟩
      cases h with
      | foreign _ hforeign => exact absurd (howner.symm.trans hforeign) (by decide)
    | false =>
      have hmoves : ¬want.Relocates id found := fun h => absurd (howner.symm.trans h.2) (by decide)
      rw [if_neg (by decide), if_neg hmoves]
      refine ⟨rfl, rfl, fun failure => ⟨fun h => ?_, fun h => ?_⟩⟩
      · obtain rfl := List.mem_singleton.1 h
        exact .foreign hsame howner
      · cases h
        exact List.mem_singleton.2 rfl

/-- A change of options writes the disk again, and is never refused. -/
theorem retuneDisk_spec : (retuneDisk slot want found).moves = [] ∧ (retuneDisk slot want found).resizes = [] ∧
    (retuneDisk slot want found).failures = [] ∧
    (retuneDisk slot want found).updates =
      (if want.Retunes found then [retuneStep slot want found] else []) := by
  rw [retuneDisk]
  change _ ∧ _ ∧ _ ∧ _ = if want.diskClass = .data ∧ want.options ≠ found.options then _ else _
  split <;> exact ⟨rfl, rfl, rfl, rfl⟩

theorem updates_changeDisk_some : (changeDisk id slot want (some found)).updates =
    if want.Retunes found then [retuneStep slot want found] else [] := by
  rw [changeDisk, updates_append, updates_append, updates_resizeDisk, updates_moveDisk,
    (retuneDisk_spec slot want found).2.2.2]
  rfl

theorem moves_changeDisk_some : (changeDisk id slot want (some found)).moves =
    if want.Relocates id found then [moveStep slot want] else [] := by
  change (resizeDisk id slot want found).moves ++ (moveDisk id slot want found).moves ++
    (retuneDisk slot want found).moves = _
  rw [(resizeDisk_spec id slot want found).1, (moveDisk_spec id slot want found).2.1,
    (retuneDisk_spec slot want found).1, List.nil_append, List.append_nil]

theorem resizes_changeDisk_some : (changeDisk id slot want (some found)).resizes =
    if want.Grows id found then [growStep slot want] else [] := by
  change (resizeDisk id slot want found).resizes ++ (moveDisk id slot want found).resizes ++
    (retuneDisk slot want found).resizes = _
  rw [(resizeDisk_spec id slot want found).2.1, (moveDisk_spec id slot want found).1,
    (retuneDisk_spec slot want found).2.1, List.append_nil, List.append_nil]

theorem mem_failures_changeDisk_some {failure : Failure} :
    failure ∈ (changeDisk id slot want (some found)).failures ↔
      Disk.SizeRefused id want found slot failure ∨ Disk.MoveRefused id want found failure := by
  change failure ∈ (resizeDisk id slot want found).failures ++ (moveDisk id slot want found).failures ++
    (retuneDisk slot want found).failures ↔ _
  rw [(retuneDisk_spec slot want found).2.2.1, List.append_nil, List.mem_append,
    (resizeDisk_spec id slot want found).2.2, (moveDisk_spec id slot want found).2.2]

/-! ## All disks -/

/-- The steps of one kind: those of joined plans are joined, and failures are none. -/
structure StepKind (steps : DiskPlan → List Intent) : Prop where
  append : ∀ p q : DiskPlan, steps (p ++ q) = steps p ++ steps q
  failing : ∀ failures, steps { DiskPlan.empty with failures := failures } = []
  sub : ∀ p, steps p ⊆ p.steps

theorem stepKind_updates : StepKind DiskPlan.updates :=
  ⟨fun _ _ => rfl, fun _ => rfl, fun _ _ h => List.mem_append_left _ (List.mem_append_left _ h)⟩

theorem stepKind_moves : StepKind DiskPlan.moves :=
  ⟨fun _ _ => rfl, fun _ => rfl, fun _ _ h => List.mem_append_left _ (List.mem_append_right _ h)⟩

theorem stepKind_resizes : StepKind DiskPlan.resizes :=
  ⟨fun _ _ => rfl, fun _ => rfl, fun _ _ h => List.mem_append_right _ h⟩

variable {id slot}

/-- What is done for a disk is done in its slot. -/
theorem slot?_changeDisk {found : Option Disk} {i : Intent} (h : i ∈ (changeDisk id slot want found).steps) :
    i.op.slot? = some slot := by
  obtain ⟨hmoves, hresizes⟩ := moves_resizes_changeDisk id slot want found
  rcases List.mem_append.1 h with h | h
  · rcases List.mem_append.1 h with h | h
    · rcases updates_changeDisk id slot want found with hu | ⟨value, reason, hu, -⟩
      · rw [hu] at h
        cases h
      · rw [hu] at h
        rw [List.mem_singleton.1 h]
        rfl
    · obtain ⟨store, rfl⟩ := hmoves i h
      rfl
  · obtain ⟨size, rfl⟩ := hresizes i h
    rfl

variable {desired observed : Dict Disk} {steps : DiskPlan → List Intent}

theorem StepKind.inSlot (hk : StepKind steps) :
    (steps (planDisks id desired observed)).filter (fun i => i.op.slot? == some slot) =
      (desired.get? slot).elim [] fun want => steps (changeDisk id slot want (observed.get? slot)) := by
  rw [planDisks_flatMap steps hk.append hk.failing]
  exact filter_flatMap_slot (fun slot want => steps (changeDisk id slot want (observed.get? slot)))
    (fun slot want i hi => slot?_changeDisk want (hk.sub _ hi)) desired.nodup_keys slot

theorem StepKind.outsideSlot (hk : StepKind steps) :
    (steps (planDisks id desired observed)).filter (fun i => i.op.slot? != some slot) =
      steps (planDisks id (desired.erase slot) (observed.erase slot)) := by
  rw [planDisks_flatMap steps hk.append hk.failing, planDisks_flatMap steps hk.append hk.failing]
  rw [filter_flatMap_other (fun slot want => steps (changeDisk id slot want (observed.get? slot)))
    (fun slot want i hi => slot?_changeDisk want (hk.sub _ hi))]
  refine List.flatMap_congr fun e he => ?_
  have hne : slot ≠ e.1 := (bne_iff_ne.1 (List.mem_filter.1 he).2).symm
  rw [Dict.get?_erase, if_neg hne]

theorem StepKind.mem_planDisks (hk : StepKind steps) {i : Intent} :
    i ∈ steps (planDisks id desired observed) ↔ ∃ slot want, desired.get? slot = some want ∧
      i ∈ steps (changeDisk id slot want (observed.get? slot)) := by
  rw [planDisks_flatMap steps hk.append hk.failing, List.mem_flatMap]
  constructor
  · rintro ⟨⟨slot, want⟩, he, hi⟩
    exact ⟨slot, want, Dict.mem_entries_iff.1 he, hi⟩
  · rintro ⟨slot, want, he, hi⟩
    exact ⟨(slot, want), Dict.mem_entries_iff.2 he, hi⟩

/-- A disk that is not there is attached; one that is there is only written again. -/
theorem mem_updates_planDisks_iff {i : Intent} :
    i ∈ (planDisks id desired observed).updates ↔ ∃ slot want, desired.get? slot = some want ∧
      ((observed.get? slot = none ∧ i = createStep slot want) ∨
        ∃ found, observed.get? slot = some found ∧ want.Retunes found ∧ i = retuneStep slot want found) := by
  rw [stepKind_updates.mem_planDisks]
  refine exists_congr fun slot => exists_congr fun want => and_congr_right fun _ => ?_
  cases observed.get? slot with
  | none => simp [changeDisk, createDisk, createStep]
  | some found =>
    rw [updates_changeDisk_some]
    split_ifs with h <;> simp [h]

/-- A step that only a disk leads to that is there already. -/
theorem StepKind.mem_planDisks_of_found (hk : StepKind steps) {changes : Disk → Disk → Prop}
    [∀ want found, Decidable (changes want found)] {step : String → Disk → Intent}
    (hnone : ∀ slot want, steps (changeDisk id slot want none) = [])
    (hsome : ∀ slot want found, steps (changeDisk id slot want (some found)) =
      if changes want found then [step slot want] else []) {i : Intent} :
    i ∈ steps (planDisks id desired observed) ↔ ∃ slot want found, desired.get? slot = some want ∧
      observed.get? slot = some found ∧ changes want found ∧ i = step slot want := by
  rw [hk.mem_planDisks]
  refine exists_congr fun slot => exists_congr fun want => ?_
  rw [exists_and_left]
  refine and_congr_right fun _ => ?_
  cases observed.get? slot with
  | none => simp [hnone]
  | some found =>
    rw [hsome]
    split_ifs with h <;> simp [h]

theorem mem_moves_planDisks_iff {i : Intent} :
    i ∈ (planDisks id desired observed).moves ↔ ∃ slot want found, desired.get? slot = some want ∧
      observed.get? slot = some found ∧ want.Relocates id found ∧ i = moveStep slot want :=
  stepKind_moves.mem_planDisks_of_found (fun _ _ => rfl) (moves_changeDisk_some id)

theorem mem_resizes_planDisks_iff {i : Intent} :
    i ∈ (planDisks id desired observed).resizes ↔ ∃ slot want found, desired.get? slot = some want ∧
      observed.get? slot = some found ∧ want.Grows id found ∧ i = growStep slot want :=
  stepKind_resizes.mem_planDisks_of_found (fun _ _ => rfl) (resizes_changeDisk_some id)

theorem failures_planDisks (h : desired.isEmpty = false) :
    (planDisks id desired observed).failures = undeclaredDisks desired observed ++
      desired.entries.flatMap fun e => (changeDisk id e.1 e.2 (observed.get? e.1)).failures := by
  have hfold : ∀ (plans : List DiskPlan) (start : DiskPlan),
      (plans.foldl (· ++ ·) start).failures = start.failures ++ plans.flatMap DiskPlan.failures := by
    intro plans
    induction plans with
    | nil => simp
    | cons p plans ih =>
      intro start
      rw [List.foldl_cons, ih, List.flatMap_cons, ← List.append_assoc]
      rfl
  rw [planDisks, if_neg (by simp [h]), hfold, List.flatMap_map]

/-- What is reported: disks that are not declared, and what is refused of those that are. -/
theorem mem_failures_planDisks_iff (h : desired.isEmpty = false) {failure : Failure} :
    failure ∈ (planDisks id desired observed).failures ↔
      (∃ slot found, observed.get? slot = some found ∧ desired.get? slot = none ∧
        failure = undeclaredFailure slot found) ∨
      ∃ slot want found, desired.get? slot = some want ∧ observed.get? slot = some found ∧
        (Disk.SizeRefused id want found slot failure ∨ Disk.MoveRefused id want found failure) := by
  rw [failures_planDisks h, List.mem_append]
  refine or_congr ?_ ?_
  · simp only [undeclaredDisks, List.mem_map, List.mem_filter, Dict.contains_eq]
    constructor
    · rintro ⟨⟨slot, found⟩, ⟨he, hnone⟩, rfl⟩
      exact ⟨slot, found, Dict.mem_entries_iff.1 he, by simpa using hnone, rfl⟩
    · rintro ⟨slot, found, he, hnone, rfl⟩
      exact ⟨(slot, found), ⟨Dict.mem_entries_iff.2 he, by simp [hnone]⟩, rfl⟩
  · rw [List.mem_flatMap]
    constructor
    · rintro ⟨⟨slot, want⟩, he, hfailure⟩
      dsimp only at hfailure
      cases hfound : observed.get? slot with
      | none =>
        rw [hfound] at hfailure
        cases hfailure
      | some found =>
        rw [hfound] at hfailure
        exact ⟨slot, want, found, Dict.mem_entries_iff.1 he, hfound,
          (mem_failures_changeDisk_some id slot want found).1 hfailure⟩
    · rintro ⟨slot, want, found, he, hfound, hrefused⟩
      refine ⟨(slot, want), Dict.mem_entries_iff.2 he, ?_⟩
      dsimp only
      rw [hfound]
      exact (mem_failures_changeDisk_some id slot want found).2 hrefused

/-- What is done in a slot follows from the two disks of that slot. -/
theorem inSlot_congr {desired' observed' : Dict Disk} (hd : desired'.get? slot = desired.get? slot)
    (ho : observed'.get? slot = observed.get? slot) :
    ((planDisks id desired' observed').inSlot slot).SameSteps ((planDisks id desired observed).inSlot slot) := by
  have hkind {steps : DiskPlan → List Intent} (hk : StepKind steps) :
      (steps (planDisks id desired' observed')).filter (fun i => i.op.slot? == some slot) =
        (steps (planDisks id desired observed)).filter fun i => i.op.slot? == some slot := by
    rw [hk.inSlot, hk.inSlot, hd, ho]
  exact ⟨hkind stepKind_updates, hkind stepKind_moves, hkind stepKind_resizes⟩

/-- What is done in the other slots is what is done without that slot. -/
theorem outsideSlot_planDisks : ((planDisks id desired observed).outsideSlot slot).SameSteps
    (planDisks id (desired.erase slot) (observed.erase slot)) :=
  ⟨stepKind_updates.outsideSlot, stepKind_moves.outsideSlot, stepKind_resizes.outsideSlot⟩

/-- A plan that keeps to the policy of disks: it takes nothing away, it does for each disk what is allowed
and nothing else, and what it does not make up for it reports. -/
structure DiskPolicy (id : UInt32) (desired observed : Dict Disk) (p : DiskPlan) : Prop where
  noDelete : ∀ i ∈ p.steps, ∀ slot, i.op ≠ .delete slot
  once : ∀ slot, (p.inSlot slot).updates.length ≤ 1 ∧ (p.inSlot slot).moves.length ≤ 1 ∧
    (p.inSlot slot).resizes.length ≤ 1
  updates : ∀ i, i ∈ p.updates ↔ ∃ slot want, desired.get? slot = some want ∧
    ((observed.get? slot = none ∧ i = createStep slot want) ∨
      ∃ found, observed.get? slot = some found ∧ want.Retunes found ∧ i = retuneStep slot want found)
  moves : ∀ i, i ∈ p.moves ↔ ∃ slot want found, desired.get? slot = some want ∧
    observed.get? slot = some found ∧ want.Relocates id found ∧ i = moveStep slot want
  resizes : ∀ i, i ∈ p.resizes ↔ ∃ slot want found, desired.get? slot = some want ∧
    observed.get? slot = some found ∧ want.Grows id found ∧ i = growStep slot want
  failures : ∀ failure, failure ∈ p.failures ↔
    (∃ slot found, observed.get? slot = some found ∧ desired.get? slot = none ∧
      failure = undeclaredFailure slot found) ∨
    ∃ slot want found, desired.get? slot = some want ∧ observed.get? slot = some found ∧
      (Disk.SizeRefused id want found slot failure ∨ Disk.MoveRefused id want found failure)
  /-- Whatever differs in a slot is made up for or reported. -/
  presence : ∀ slot,
    (∀ found ∈ observed.get? slot, desired.get? slot = none → undeclaredFailure slot found ∈ p.failures) ∧
    ∀ want ∈ desired.get? slot, observed.get? slot = none → createStep slot want ∈ p.updates
  store : ∀ slot, ∀ want ∈ desired.get? slot, ∀ found ∈ observed.get? slot,
    want.datastore ≠ found.datastore →
      moveStep slot want ∈ p.moves ∨ ∃ failure ∈ p.failures, Disk.MoveRefused id want found failure
  size : ∀ slot, ∀ want ∈ desired.get? slot, ∀ found ∈ observed.get? slot,
    want.sizeGib ≠ found.sizeGib →
      growStep slot want ∈ p.resizes ∨ ∃ failure ∈ p.failures, Disk.SizeRefused id want found slot failure
  options : ∀ slot, ∀ want ∈ desired.get? slot, ∀ found ∈ observed.get? slot,
    want.diskClass = .data → want.options ≠ found.options → retuneStep slot want found ∈ p.updates

theorem noDelete_planDisks {i : Intent} (h : i ∈ (planDisks id desired observed).steps) (param : String) :
    i.op ≠ .delete param := by
  rcases List.mem_append.1 h with h | h
  · rcases List.mem_append.1 h with h | h
    · obtain ⟨slot, want, -, ⟨-, rfl⟩ | ⟨found, -, -, rfl⟩⟩ := mem_updates_planDisks_iff.1 h
      · exact nofun
      · exact nofun
    · obtain ⟨slot, want, found, -, -, -, rfl⟩ := mem_moves_planDisks_iff.1 h
      exact nofun
  · obtain ⟨slot, want, found, -, -, -, rfl⟩ := mem_resizes_planDisks_iff.1 h
    exact nofun

theorem once_changeDisk (id : UInt32) (slot : String) (want : Disk) (found : Option Disk) :
    (changeDisk id slot want found).updates.length ≤ 1 ∧ (changeDisk id slot want found).moves.length ≤ 1 ∧
      (changeDisk id slot want found).resizes.length ≤ 1 := by
  cases found with
  | none => exact ⟨Nat.le_refl 1, Nat.zero_le 1, Nat.zero_le 1⟩
  | some found =>
    rw [updates_changeDisk_some, moves_changeDisk_some, resizes_changeDisk_some]
    refine ⟨?_, ?_, ?_⟩ <;> split <;> simp

theorem once_planDisks (slot : String) :
    ((planDisks id desired observed).inSlot slot).updates.length ≤ 1 ∧
      ((planDisks id desired observed).inSlot slot).moves.length ≤ 1 ∧
      ((planDisks id desired observed).inSlot slot).resizes.length ≤ 1 := by
  have hkind {steps : DiskPlan → List Intent} (hk : StepKind steps)
      (h : ∀ want, (steps (changeDisk id slot want (observed.get? slot))).length ≤ 1) :
      ((steps (planDisks id desired observed)).filter fun i => i.op.slot? == some slot).length ≤ 1 := by
    rw [hk.inSlot]
    cases desired.get? slot with
    | none => exact Nat.zero_le 1
    | some want => exact h want
  have honce := fun want => once_changeDisk id slot want (observed.get? slot)
  exact ⟨hkind stepKind_updates fun want => (honce want).1, hkind stepKind_moves fun want => (honce want).2.1,
    hkind stepKind_resizes fun want => (honce want).2.2⟩

theorem diskPolicy_planDisks (h : desired.isEmpty = false) :
    DiskPolicy id desired observed (planDisks id desired observed) where
  noDelete _ hi param := noDelete_planDisks hi param
  once slot := once_planDisks slot
  updates _ := mem_updates_planDisks_iff
  moves _ := mem_moves_planDisks_iff
  resizes _ := mem_resizes_planDisks_iff
  failures _ := mem_failures_planDisks_iff h
  presence slot := by
    refine ⟨fun found hfound hnone => ?_, fun want hwant hnone => ?_⟩
    · exact (mem_failures_planDisks_iff h).2 (.inl ⟨slot, found, hfound, hnone, rfl⟩)
    · exact mem_updates_planDisks_iff.2 ⟨slot, want, hwant, .inl ⟨hnone, rfl⟩⟩
  store slot want hwant found hfound hdiffers := by
    rcases Disk.relocates_or_refused id hdiffers with hmoves | hrefused
    · exact .inl (mem_moves_planDisks_iff.2 ⟨slot, want, found, hwant, hfound, hmoves, rfl⟩)
    · refine .inr ⟨_, (mem_failures_planDisks_iff h).2 (.inr ?_), hrefused⟩
      exact ⟨slot, want, found, hwant, hfound, .inr hrefused⟩
  size slot want hwant found hfound hdiffers := by
    rcases Disk.grows_or_refused id hdiffers slot with hgrows | ⟨failure, hrefused⟩
    · exact .inl (mem_resizes_planDisks_iff.2 ⟨slot, want, found, hwant, hfound, hgrows, rfl⟩)
    · refine .inr ⟨failure, (mem_failures_planDisks_iff h).2 (.inr ?_), hrefused⟩
      exact ⟨slot, want, found, hwant, hfound, .inl hrefused⟩
  options slot want hwant found hfound hdata hdiffers :=
    mem_updates_planDisks_iff.2 ⟨slot, want, hwant, .inr ⟨found, hfound, ⟨hdata, hdiffers⟩, rfl⟩⟩

/-- Where disks are declared, what is done and reported keeps to the policy, and what is done in a slot
follows from the disk that is declared for it and the one that it holds. -/
theorem planDisks_policy (id : UInt32) (desired observed : Dict Disk) (h : desired.isEmpty = false) :
    DiskPolicy id desired observed (planDisks id desired observed) ∧
      ∀ (desired' observed' : Dict Disk) (slot : String), desired'.get? slot = desired.get? slot →
        observed'.get? slot = observed.get? slot →
        ((planDisks id desired' observed').inSlot slot).SameSteps
          ((planDisks id desired observed).inSlot slot) :=
  ⟨diskPolicy_planDisks h, fun _ _ _ hd ho => inSlot_congr hd ho⟩

/-- A disk that is to grow in another store, and a new one. -/
def archiveDisks : Dict Disk :=
  .ofList [("scsi0", .plain "scsi0" .data "fast" 64 none true),
    ("scsi1", .plain "scsi1" .data "local-lvm" 8 none true)]

/-- The disk that is to grow, and one that is not declared. -/
def archiveDisksFound : Dict Disk :=
  .ofList [("sata0", { Disk.plain "sata0" .data "local-lvm" 8 none true with path := some "vm-100-disk-1" }),
    ("scsi0", { Disk.plain "scsi0" .data "local-lvm" 32 none true with path := some "vm-100-disk-0" })]

theorem planDisks_policy_archive : archiveDisks.isEmpty = false ∧
    DiskPolicy 100 archiveDisks archiveDisksFound (planDisks 100 archiveDisks archiveDisksFound) :=
  have hdeclared : archiveDisks.isEmpty = false := by decide
  ⟨hdeclared, (planDisks_policy 100 archiveDisks archiveDisksFound hdeclared).1⟩

/-! ## Disks that break the policy -/

/-- A disk that breaks the policy is reported and never grows, and what is done for the other disks is what
is done without it. But it is let alone only where it asks for nothing else that is allowed: otherwise it is
moved to the declared store, or written with the declared options, all the same. -/
theorem violated_disk_untouched_iff (id : UInt32) (desired observed : Dict Disk) {slot : String}
    {want found : Disk} (hd : desired.get? slot = some want) (ho : observed.get? slot = some found)
    (hv : want.Violates id found) :
    let plan := planDisks id desired observed
    ((plan.inSlot slot).steps = [] ↔ ¬want.Relocates id found ∧ ¬want.Retunes found) ∧
      (plan.inSlot slot).resizes = [] ∧
      (∃ failure ∈ plan.failures,
        Disk.SizeRefused id want found slot failure ∨ Disk.MoveRefused id want found failure) ∧
      (plan.outsideSlot slot).SameSteps (planDisks id (desired.erase slot) (observed.erase slot)) := by
  intro plan
  have hupdates : (plan.inSlot slot).updates = _ := stepKind_updates.inSlot
  have hmoves : (plan.inSlot slot).moves = _ := stepKind_moves.inSlot
  have hresizes : (plan.inSlot slot).resizes = _ := stepKind_resizes.inSlot
  rw [hd, ho, Option.elim_some] at hupdates hmoves hresizes
  rw [updates_changeDisk_some] at hupdates
  rw [moves_changeDisk_some] at hmoves
  rw [resizes_changeDisk_some, if_neg (Disk.not_grows_of_violates hv)] at hresizes
  refine ⟨?_, hresizes, ?_, outsideSlot_planDisks⟩
  · rw [DiskPlan.steps, hupdates, hmoves, hresizes, List.append_nil, List.append_eq_nil_iff]
    by_cases hr : want.Relocates id found <;> by_cases ht : want.Retunes found <;> simp [hr, ht]
  · have hdeclared : desired.isEmpty = false :=
      List.isEmpty_eq_false_iff_exists_mem.2 ⟨_, Dict.mem_entries_iff.2 hd⟩
    obtain ⟨failure, hrefused⟩ := (Disk.violates_iff slot).1 hv
    refine ⟨failure, (mem_failures_planDisks_iff hdeclared).2 (.inr ?_), hrefused⟩
    exact ⟨slot, want, found, hd, ho, hrefused⟩

/-- The first disk in another store, but smaller than it is. -/
def shrunkArchiveDisks : Dict Disk := .ofList [("scsi0", .plain "scsi0" .data "fast" 16 none true)]

theorem violated_disk_untouched_shrunkArchive : ∃ want found, shrunkArchiveDisks.get? "scsi0" = some want ∧
    archiveDisksFound.get? "scsi0" = some found ∧ want.Violates 100 found ∧
    ((planDisks 100 shrunkArchiveDisks archiveDisksFound).inSlot "scsi0").steps ≠ [] := by
  obtain ⟨want, hd⟩ : ∃ want, shrunkArchiveDisks.get? "scsi0" = some want := ⟨_, rfl⟩
  obtain ⟨found, ho⟩ : ∃ found, archiveDisksFound.get? "scsi0" = some found := ⟨_, rfl⟩
  have hv : want.Violates 100 found := by
    cases hd
    cases ho
    decide +kernel
  have hr : want.Relocates 100 found := by
    cases hd
    cases ho
    decide +kernel
  exact ⟨want, found, hd, ho, hv, fun h =>
    ((violated_disk_untouched_iff 100 shrunkArchiveDisks archiveDisksFound hd ho hv).1.1 h).1 hr⟩

end Plan

end Steward
