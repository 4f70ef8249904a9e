/-
The stopped window. Disks that move and the first-boot drive that changes its place need a stopped instance:
a pass over a running one shuts it down first, and what depends on that is not tried where the shutdown has
failed. Instances that are templates, or are about to become one, are never shut down, and for them the same
steps are made while they run.
-/
import Mathlib
import Steward.Proofs.Gating
import Steward.Proofs.PowerHistory

namespace Steward

variable {σ : Type}

/-! ## Steps that need a stopped instance -/

namespace Intent

/-- A disk is moved, or the first-boot drive is detached or attached. -/
def needsStopped (i : Intent) : Bool :=
  match i.op with
  | .moveDisk .. => true
  | _ => i.reason == .cloudInitDetach || i.reason == .cloudInitAttach

/-- The shutdown that opens the stopped window. -/
def opening : Intent := ⟨.shutdown, .stoppedWindow, .nothing⟩

/-- Whether the window is open after a step: the shutdown opens it, a start closes it. -/
def windowAfter (opened : Bool) (i : Intent) : Bool :=
  if i = opening then true else if i.op = .start then false else opened

theorem windowAfter_of_change {i : Intent} (h : i.op.isConfigChange = true) (opened : Bool) :
    windowAfter opened i = opened := by
  have hopening : i ≠ opening := by
    rintro rfl
    cases h
  have hstart : i.op ≠ .start := fun hop => by
    rw [hop] at h
    cases h
  rw [windowAfter, if_neg hopening, if_neg hstart]

end Intent

/-- Every step that needs a stopped instance comes after the shutdown that opens the window, with no start in
between, and depends on it. -/
def Plan.Windowed (p : Plan) : Prop :=
  ∀ before i later, p.intents = before ++ i :: later → i.needsStopped = true →
    i.dependency = .stoppedWindow ∧ ∃ earlier between, before = earlier ++ Intent.opening :: between ∧
      ∀ j ∈ between, j.op ≠ .start

/-- The same, said step by step. -/
def Guarded : Bool → List Intent → Prop
  | _, [] => True
  | opened, i :: rest =>
    (i.needsStopped = true → opened = true ∧ i.dependency = .stoppedWindow) ∧
      Guarded (i.windowAfter opened) rest

namespace Guarded

variable {opened : Bool} {as bs : List Intent}

theorem append_iff :
    Guarded opened (as ++ bs) ↔ Guarded opened as ∧ Guarded (as.foldl (fun o i => i.windowAfter o) opened) bs := by
  induction as generalizing opened with
  | nil => simp [Guarded]
  | cons i as ih => simp only [List.cons_append, Guarded, List.foldl_cons, ih, and_assoc]

theorem foldl_steady (h : ∀ i ∈ as, Intent.windowAfter opened i = opened) :
    as.foldl (fun o i => i.windowAfter o) opened = opened := by
  induction as with
  | nil => rfl
  | cons i as ih =>
    obtain ⟨hi, has⟩ := List.forall_mem_cons.1 h
    rw [List.foldl_cons, hi]
    exact ih has

/-- Steps that leave the window as it is. -/
theorem of_steady (hsteady : ∀ i ∈ as, Intent.windowAfter opened i = opened)
    (h : ∀ i ∈ as, i.needsStopped = true → opened = true ∧ i.dependency = .stoppedWindow) :
    Guarded opened as := by
  induction as with
  | nil => trivial
  | cons i as ih =>
    obtain ⟨hi, has⟩ := List.forall_mem_cons.1 hsteady
    obtain ⟨hneeds, hrest⟩ := List.forall_mem_cons.1 h
    rw [Guarded, hi]
    exact ⟨hneeds, ih has hrest⟩

theorem iff_forall : Guarded opened as ↔ ∀ before i later, as = before ++ i :: later →
    i.needsStopped = true →
      before.foldl (fun o i => i.windowAfter o) opened = true ∧ i.dependency = .stoppedWindow := by
  constructor
  · rintro h before i later rfl hneeds
    exact (append_iff.1 h).2.1 hneeds
  · intro h
    induction as generalizing opened with
    | nil => trivial
    | cons i as ih =>
      exact ⟨h [] i as rfl, ih fun before j later hsplit => h (i :: before) j later (by rw [hsplit]; rfl)⟩

end Guarded

/-- The window is open if it was and there was no start, or the shutdown has come and no start after it. -/
theorem foldl_windowAfter_iff {opened : Bool} {steps : List Intent} :
    steps.foldl (fun o i => i.windowAfter o) opened = true ↔
      (opened = true ∧ ∀ j ∈ steps, j.op ≠ .start) ∨
        ∃ earlier between, steps = earlier ++ Intent.opening :: between ∧ ∀ j ∈ between, j.op ≠ .start := by
  induction steps generalizing opened with
  | nil => simp
  | cons i steps ih =>
    rw [List.foldl_cons, ih]
    have hlater : (∃ earlier between, i :: steps = earlier ++ Intent.opening :: between ∧
        ∀ j ∈ between, j.op ≠ .start) ↔ (i = Intent.opening ∧ ∀ j ∈ steps, j.op ≠ .start) ∨
        ∃ earlier between, steps = earlier ++ Intent.opening :: between ∧ ∀ j ∈ between, j.op ≠ .start := by
      constructor
      · rintro ⟨earlier, between, hsplit, hbetween⟩
        cases earlier with
        | nil =>
          cases hsplit
          exact .inl ⟨rfl, hbetween⟩
        | cons j earlier =>
          cases hsplit
          exact .inr ⟨earlier, between, rfl, hbetween⟩
      · rintro (⟨rfl, hsteps⟩ | ⟨earlier, between, rfl, hbetween⟩)
        · exact ⟨[], steps, rfl, hsteps⟩
        · exact ⟨i :: earlier, between, rfl, hbetween⟩
    have hopening : Intent.opening.op ≠ .start := by decide
    rw [hlater, List.forall_mem_cons, Intent.windowAfter]
    by_cases hi : i = Intent.opening
    · simp [hi, hopening]
      tauto
    · by_cases hstart : i.op = .start <;> simp [hi, hstart]

theorem Plan.windowed_iff {p : Plan} : p.Windowed ↔ Guarded false p.intents := by
  rw [Guarded.iff_forall]
  refine forall₅_congr fun before i later _ _ => ?_
  rw [foldl_windowAfter_iff, and_comm]
  simp

/-! ## Plans -/

theorem Intent.needsStopped_of_isPlain {i : Intent} (h : i.isPlain = true) : i.needsStopped = false := by
  obtain ⟨op, reason, dependency⟩ := i
  simp only [isPlain, Bool.and_eq_true, bne_iff_ne, ne_eq] at h
  obtain ⟨⟨hchange, hdetach⟩, hattach⟩ := h
  cases op <;> simp_all [needsStopped, Operation.isConfigChange]

namespace Plan

theorem plain_updates_planDisks (id : UInt32) (desired observed : Dict Disk) :
    Plain (planDisks id desired observed).updates := by
  rw [updates_planDisks]
  refine .flatMap fun entry _ => ?_
  cases hfound : observed.get? entry.1 with
  | none => simp [Plain, changeDisk, createDisk, DiskPlan.empty, Intent.isPlain, Intent.update,
      Operation.isConfigChange]
  | some found =>
    rw [changeDisk, updates_append, updates_append, updates_resizeDisk, updates_moveDisk, retuneDisk]
    split_ifs <;> simp [Plain, DiskPlan.empty, Intent.isPlain, Intent.update, Operation.isConfigChange]

/-- The drive is detached and attached in a relocation only. -/
theorem relocation_of_mem {desired : Desired} {observed : Observed} {i : Intent}
    (h : i ∈ (passCloudInit desired observed).detach ∨ i ∈ (passCloudInit desired observed).attach) :
    (passCloudInit desired observed).relocation = true ∧ i.op.isConfigChange = true := by
  unfold passCloudInit at h ⊢
  split at h
  · constructor
    · cases hw : desired.config.cloudInit with
      | none =>
        rw [hw] at h
        rcases h with h | h <;> cases h
      | some want =>
        rw [hw] at h
        cases hr : needsRelocation want observed.config.cloudInit with
        | true => exact hr
        | false => simp [planCloudInit, hr] at h
    · rcases h with h | h
      · obtain ⟨slot, rfl, -⟩ := mem_detach h
        rfl
      · rw [attach_planCloudInit] at h
        obtain ⟨want, -, rfl⟩ := Option.map_eq_some_iff.1 h
        rfl
  · rcases h with h | h <;> cases h

theorem plain_updates_passCloudInit (desired : Desired) (observed : Observed) :
    Plain (passCloudInit desired observed).updates := by
  unfold passCloudInit
  split
  · unfold planCloudInit
    split
    · exact .nil
    · exact plain_cloudInitUpdates _ _
  · exact plain_planContainerResolver _ _

/-- Around its changes, a pass does nothing that needs a stopped instance. -/
theorem needsStopped_around_changes {s : ScheduleInput} {i : Intent}
    (h : i ∈ s.migration ++ s.opening ∨ i ∈ s.alignment ++ s.restart) : i.needsStopped = false := by
  obtain ⟨node, rfl⟩ | hpower := around_changes_cases h
  · rfl
  · exact (by decide : ∀ i ∈ powerSteps, i.needsStopped = false) i hpower

section Pass

variable {desired : Desired} {observed : Observed} {copied : Bool}

/-- The changes of a pass: plain ones and the growth of disks at any time, and in the window what happens to the
drive and to disks that are moved. -/
theorem passChange_cases {i : Intent} (h : i ∈ (passInput desired observed copied).changes) :
    i.isPlain = true ∨ i ∈ (passDisks desired observed).resizes ∨
      ∃ j, i = (passInput desired observed copied).inWindow j ∧
        ((j ∈ (passCloudInit desired observed).detach ∨ j ∈ (passCloudInit desired observed).attach) ∨
          j ∈ (passDisks desired observed).moves) := by
  rcases mem_changes_iff.1 h with ⟨j, hj, hi⟩ | ⟨j, hj, hi⟩ | h | h | h | ⟨j, hj, hi⟩ | h
  · exact .inr (.inr ⟨j, hi, .inl (.inl hj)⟩)
  · exact .inr (.inr ⟨j, hi, .inl (.inr hj)⟩)
  · exact .inl (plain_updates_passCloudInit _ _ i h)
  · exact .inl (plain_diffConfig _ _ _ i h)
  · exact .inl (plain_updates_planDisks _ _ _ i h)
  · exact .inr (.inr ⟨j, hi, .inr hj⟩)
  · exact .inr (.inl h)

/-- What needs a stopped instance depends on the window, if there is one, and is a reason to open one. -/
theorem needsStopped_spec {i : Intent} (hi : i ∈ (planPass desired observed copied).plan.intents)
    (hs : i.needsStopped = true) :
    let s := passInput desired observed copied
    i ∈ s.changes ∧ i.dependency = s.windowDependency ∧
      (s.cloudInit.relocation || !s.disks.moves.isEmpty) = true ∧
      (i.op.isConfigChange = true ∨ ∃ slot store, i.op = .moveDisk slot store true) := by
  intro s
  have hnot {j : Intent} (h : j.needsStopped = false) (hij : i = j) : False := by
    rw [hij, h] at hs
    cases hs
  change i ∈ (schedule s).intents at hi
  rw [intents_schedule, List.mem_append, List.mem_append] at hi
  have hchange : i ∈ s.changes := by
    rcases hi with (hi | hi) | hi
    · exact absurd rfl (hnot (needsStopped_around_changes (.inl hi)))
    · exact hi
    · exact absurd rfl (hnot (needsStopped_around_changes (.inr hi)))
  refine ⟨hchange, ?_⟩
  rcases passChange_cases hchange with hplain | hgrows | ⟨j, hj, hdrive | hmove⟩
  · exact (hnot (Intent.needsStopped_of_isPlain hplain) rfl).elim
  · obtain ⟨slot, size, rfl⟩ := mem_resizes_planDisks hgrows
    exact (hnot rfl rfl).elim
  · subst hj
    obtain ⟨hrelocation, hop⟩ := relocation_of_mem hdrive
    exact ⟨rfl, Bool.or_eq_true_iff.2 (.inl hrelocation), .inl hop⟩
  · subst hj
    obtain ⟨slot, store, rfl⟩ := mem_moves_planDisks hmove
    have hmoves : s.disks.moves.isEmpty = false := List.isEmpty_eq_false_iff_exists_mem.2 ⟨_, hmove⟩
    exact ⟨rfl, by rw [hmoves, Bool.not_false, Bool.or_true], .inr ⟨slot, store, rfl⟩⟩

theorem not_start_of_mem_changes {i : Intent} (hi : i ∈ (passInput desired observed copied).changes)
    (opened : Bool) : Intent.windowAfter opened i = opened := by
  have hwork := (passInput desired observed copied).work_changes (work_work desired observed copied) i hi
  have hopening : i ≠ Intent.opening := by
    rintro rfl
    cases hwork
  have hstart : i.op ≠ .start := fun hop => by
    rw [hop] at hwork
    cases hwork
  rw [Intent.windowAfter, if_neg hopening, if_neg hstart]

/-- Before the changes the window is open if it is opened at all. -/
theorem foldl_before_changes (s : ScheduleInput) :
    (s.migration ++ s.opening).foldl (fun o i => i.windowAfter o) false = s.windowOpen := by
  have hmigration : s.migration.foldl (fun o i => i.windowAfter o) false = false := by
    rw [ScheduleInput.migration]
    cases s.migrateTo <;> rfl
  rw [List.foldl_append, hmigration, ScheduleInput.opening]
  cases s.windowOpen <;> rfl

/-- A pass over a running instance that is no template does what needs a stopped one in a window. -/
theorem windowed_of_not_template (hrun : observed.status.isRunning = true)
    (ht : (desired.config.template.value || observed.config.template.value) = false) :
    (planPass desired observed copied).plan.Windowed := by
  let s := passInput desired observed copied
  have htemplate : s.template = false := ht
  have hrunning : s.wasRunning = true := hrun
  have haround {opened : Bool} {intents : List Intent} (h : ∀ i ∈ intents, i.needsStopped = false) :
      Guarded opened intents := by
    refine Guarded.iff_forall.2 fun before i later hsplit hneeds => ?_
    rw [h i (by simp [hsplit])] at hneeds
    cases hneeds
  rw [windowed_iff]
  change Guarded false (schedule s).intents
  rw [intents_schedule]
  refine Guarded.append_iff.2 ⟨Guarded.append_iff.2
    ⟨haround fun i hi => needsStopped_around_changes (.inl hi), ?_⟩,
    haround fun i hi => needsStopped_around_changes (.inr hi)⟩
  rw [foldl_before_changes]
  refine Guarded.of_steady (fun i hi => not_start_of_mem_changes hi _) fun i hi hneeds => ?_
  obtain ⟨-, hdependency, hreason, -⟩ := needsStopped_spec (mem_schedule_of_mem_changes hi) hneeds
  have hopen : s.windowOpen = true := by
    rw [ScheduleInput.windowOpen, htemplate, hrunning]
    simpa using hreason
  refine ⟨hopen, hdependency.trans ?_⟩
  rw [ScheduleInput.windowDependency, if_pos hopen]

/-- For a template there is no window, and nothing depends on one. -/
theorem dependency_of_template
    (ht : (desired.config.template.value || observed.config.template.value) = true) {i : Intent}
    (hi : i ∈ (planPass desired observed copied).plan.intents) (hs : i.needsStopped = true) :
    i.dependency = .nothing := by
  have htemplate : (passInput desired observed copied).template = true := ht
  obtain ⟨-, hdependency, -, -⟩ := needsStopped_spec hi hs
  rw [hdependency, ScheduleInput.windowDependency, ScheduleInput.windowOpen, htemplate]
  simp

/-- A template is moved and changed, and never switched on or off. -/
theorem powerAfter_of_template
    (ht : (desired.config.template.value || observed.config.template.value) = true) {i : Intent}
    (hi : i ∈ (planPass desired observed copied).plan.intents) (power : PowerState) :
    i.op.powerAfter power = power := by
  let s := passInput desired observed copied
  obtain ⟨hopening, hclosing⟩ := s.frame_template ht
  change i ∈ (schedule s).intents at hi
  rw [intents_schedule, hopening, hclosing, List.append_nil, List.append_nil, List.mem_append] at hi
  rcases hi with hi | hi
  · obtain ⟨node, -, rfl⟩ := List.mem_map.1 hi
    rfl
  · have hwork := s.work_changes (work_work desired observed copied) i hi
    cases hop : i.op <;> rw [hop] at hwork <;> first | rfl | cases hwork

theorem windowed_iff_of_running (hrun : observed.status.isRunning = true) :
    (planPass desired observed copied).plan.Windowed ↔
      (desired.config.template.value || observed.config.template.value) = false ∨
        ∀ i ∈ (planPass desired observed copied).plan.intents, i.needsStopped = false := by
  constructor
  · intro h
    cases ht : desired.config.template.value || observed.config.template.value with
    | false => exact .inl rfl
    | true =>
      refine .inr fun i hi => Bool.eq_false_of_not_eq_true fun hs => ?_
      obtain ⟨before, later, hsplit⟩ := List.append_of_mem hi
      have hdependency := (h before i later hsplit hs).1
      rw [dependency_of_template ht hi hs] at hdependency
      cases hdependency
  · rintro (ht | hcalm)
    · exact windowed_of_not_template hrun ht
    · intro before i later hsplit hs
      rw [hcalm i (by simp [hsplit])] at hs
      cases hs

end Pass

end Plan

/-! ## Runs -/

namespace Batch.Uniform

variable {b : Batch}

/-- A batch does to the window what its first step does. -/
theorem foldl_windowAfter (h : b.Uniform) (opened : Bool) :
    b.intents.foldl (fun o i => i.windowAfter o) opened = b.first.windowAfter opened := by
  have hkeep : ∀ i ∈ b.others, i.windowAfter (b.first.windowAfter opened) = b.first.windowAfter opened := by
    intro i hi
    rcases (h i (List.mem_cons_of_mem _ hi)).2 with rfl | ⟨hchange, -⟩
    · simp only [Intent.windowAfter]
      split_ifs <;> rfl
    · exact Intent.windowAfter_of_change hchange _
  rw [intents, List.foldl_cons]
  exact Guarded.foldl_steady hkeep

/-- In a guarded plan the window is open when a batch comes that needs a stopped instance. -/
theorem opened_of_guarded (h : b.Uniform) {opened : Bool} (hg : Guarded opened b.intents) {i : Intent}
    (hi : i ∈ b.intents) (hs : i.needsStopped = true) :
    opened = true ∧ b.first.dependency = .stoppedWindow := by
  rw [Guarded.iff_forall] at hg
  rcases (h i hi).2 with rfl | ⟨-, hfirst⟩
  · exact hg [] b.first b.others rfl hs
  · -- Changes of the configuration leave the window as it is.
    have hchange : ∀ j ∈ b.intents, j.op.isConfigChange = true := by
      intro j hj
      rcases (h j hj).2 with rfl | ⟨hchange, -⟩
      · exact hfirst
      · exact hchange
    obtain ⟨before, later, hsplit⟩ := List.append_of_mem hi
    obtain ⟨hopen, hdependency⟩ := hg before i later hsplit hs
    rw [Guarded.foldl_steady fun j hj => Intent.windowAfter_of_change (hchange j (by simp [hsplit, hj])) _]
      at hopen
    exact ⟨hopen, (h i hi).1.symm.trans hdependency⟩

end Batch.Uniform

/-- No step that depends on the window meets a running instance from here on: it is stopped, or the window
was lost, or nothing more is tried. -/
def Progress.Withheld (p : Progress) : Prop :=
  p.power = .stopped ∨ p.windowFailed = true ∨ p.aborted.isSome = true

namespace Progress

variable {p : Progress} {turn : Turn}

theorem power_after : (p.after turn).power = turn.powerAfter p.power := by
  cases hv : turn.verdict <;> simp [after, succeed, fail, skip, Turn.powerAfter, hv]

/-- Only a start ends that. -/
theorem Withheld.after (h : p.Withheld) (hdue : turn.Due p) (hop : turn.batch.first.op ≠ .start) :
    (p.after turn).Withheld := by
  rw [Turn.Due] at hdue
  cases hv : turn.verdict with
  | succeeded =>
    rw [hv] at hdue
    rcases h with h | h | h
    · refine .inl ?_
      rw [power_after, Turn.powerAfter, hv, h]
      cases hfirst : turn.batch.first.op <;> first | rfl | exact absurd hfirst hop
    · exact .inr (.inl (by simp [Progress.after, hv, succeed, h]))
    · exact .inr (.inr (by simp [Progress.after, hv, succeed, h]))
  | failed why =>
    rw [hv] at hdue
    rcases h with h | h | h
    · refine .inl ?_
      rw [power_after, Turn.powerAfter, hv, h]
    · exact .inr (.inl (by simp [Progress.after, hv, fail, h]))
    · rw [(skipReason?_eq_none_iff.1 hdue).1] at h
      cases h
  | skipped why =>
    simpa [Withheld, Progress.after, hv, skip] using h

/-- The turn of the shutdown that opens the window brings it about, however it ends. -/
theorem withheld_of_opening (hdue : turn.Due p) (hop : turn.batch.first = Intent.opening) :
    (p.after turn).Withheld := by
  rw [Turn.Due, hop] at hdue
  cases hv : turn.verdict with
  | succeeded =>
    refine .inl ?_
    rw [power_after, Turn.powerAfter, hv, hop]
    rfl
  | failed why => exact .inr (.inl (by simp [Progress.after, hv, fail, hop, Intent.opening]))
  | skipped why =>
    rw [hv] at hdue
    have haborted : p.aborted.isSome = true := by
      have hsome : p.skipReason? Intent.opening ≠ none := by
        dsimp only at hdue
        rw [hdue]
        simp
      rw [ne_eq, skipReason?_eq_none_iff] at hsome
      cases ha : p.aborted with
      | some => rfl
      | none => exact absurd ⟨ha, rfl⟩ hsome
    exact .inr (.inr (by simpa [Progress.after, hv, skip] using haborted))

end Progress

/-- A turn with a step that needs a stopped instance. -/
def Turn.Disrupts (turn : Turn) : Prop := ∃ i ∈ turn.steps, i.needsStopped = true

theorem powered_cons (power : PowerState) (turn : Turn) (turns : List Turn) :
    powered power (turn :: turns) = powered (turn.powerAfter power) turns := rfl

namespace Story

variable {timeouts : Timeouts} {p q : Progress} {turns : List Turn}

/-- In a guarded run no turn is had that needs a stopped instance while the instance runs. -/
theorem skipped_of_guarded (h : Story timeouts p turns q) (hu : ∀ turn ∈ turns, turn.batch.Uniform)
    {opened : Bool} (hg : Guarded opened (turns.flatMap Turn.steps)) (hp : opened = true → p.Withheld) :
    ∀ before turn later, turns = before ++ turn :: later → turn.Disrupts →
      powered p.power before = .running → turn.IsSkipped := by
  -- An open window means that the instance is stopped, or that what depends on the window is not tried.
  induction h generalizing opened with
  | done => simp
  | @turn p q first rest hdue hsound hrest ih =>
    obtain ⟨hfirst, hu⟩ := List.forall_mem_cons.1 hu
    rw [List.flatMap_cons, Guarded.append_iff] at hg
    obtain ⟨hnow, hlater⟩ := hg
    intro before turn later hsplit hdisrupts hrunning
    cases before with
    | nil =>
      cases hsplit
      obtain ⟨i, hi, hs⟩ := hdisrupts
      obtain ⟨hopen, hdependency⟩ := hfirst.opened_of_guarded hnow hi hs
      refine (Turn.isSkipped_iff hdue hfirst).2 ?_
      rcases hp hopen with hstopped | hlost | haborted
      · have hpower : p.power = .running := hrunning
        rw [hstopped] at hpower
        cases hpower
      · exact .inr (.inl ⟨hfirst.exists_dependency_iff.2 hdependency, hlost⟩)
      · exact .inl haborted
    | cons turn before =>
      cases hsplit
      rw [powered_cons, ← Progress.power_after] at hrunning
      refine ih hu hlater ?_ before _ later rfl hdisrupts hrunning
      rw [Turn.steps, hfirst.foldl_windowAfter, Intent.windowAfter]
      intro hopen
      split_ifs at hopen with hopening hstart
      · exact Progress.withheld_of_opening hdue hopening
      · exact (hp hopen).after hdue hstart

end Story

theorem powered_steady {power : PowerState} {turns : List Turn}
    (h : ∀ turn ∈ turns, turn.powerAfter power = power) : powered power turns = power := by
  induction turns with
  | nil => rfl
  | cons turn turns ih =>
    obtain ⟨hturn, hturns⟩ := List.forall_mem_cons.1 h
    rw [powered_cons, hturn]
    exact ih hturns

theorem Batch.carrier?_of_disrupts {b : Batch} {timeouts : Timeouts} {id : Identity} {power : PowerState}
    (h : b.first.op.isConfigChange = true ∨ ∃ slot store, b.first.op = .moveDisk slot store true) :
    ∃ c, b.carrier? timeouts id power = some c := by
  rcases h with h | ⟨slot, store, h⟩
  · unfold carrier?
    cases hop : b.first.op <;> rw [hop] at h <;> first | exact ⟨_, rfl⟩ | cases h
  · exact ⟨_, by rw [carrier?, h]⟩

/-- Something is said for a turn that is had. -/
theorem Turn.Sound.said_ne_nil {turn : Turn} {timeouts : Timeouts} {id : Identity} {power : PowerState}
    (h : turn.Sound timeouts id power) (hc : ∃ c, turn.batch.carrier? timeouts id power = some c)
    (hhad : ¬turn.IsSkipped) : turn.said ≠ [] := by
  obtain ⟨c, hc⟩ := hc
  have hconducted {result : Except Failure Unit} (h : turn.batch.CarriedOut timeouts id power result turn.said) :
      turn.said ≠ [] := by
    rw [Batch.CarriedOut, hc] at h
    obtain ⟨e, polls, hsaid, -⟩ := h
    rw [hsaid]
    exact List.cons_ne_nil _ _
  cases hv : turn.verdict with
  | succeeded =>
    rw [Sound, hv] at h
    exact hconducted h
  | failed why =>
    rw [Sound, hv] at h
    exact hconducted h
  | skipped why => exact absurd ⟨why, hv⟩ hhad

section Template

variable {desired : Desired} {observed : Observed} {copied : Bool} {turns before later : List Turn} {turn : Turn}
  {i : Intent}

/-- Over a pass on a template the instance stays as it is. -/
theorem powered_of_template
    (ht : (desired.config.template.value || observed.config.template.value) = true)
    (hsteps : ∀ turn ∈ turns, ∀ i ∈ turn.steps, i ∈ (Plan.planPass desired observed copied).plan.intents)
    (power : PowerState) : powered power turns = power := by
  refine powered_steady fun f hf => ?_
  unfold Turn.powerAfter
  split
  · exact Plan.powerAfter_of_template ht (hsteps f hf _ List.mem_cons_self) _
  · rfl

/-- In a pass on a template, nothing keeps a turn from being tried that needs a stopped instance, but that the run
is over. -/
theorem Gated.isSkipped_iff_of_template {id : Identity} {done : Progress} (h : Gated id done turns)
    (hsplit : turns = before ++ turn :: later) (hu : turn.batch.Uniform)
    (ht : (desired.config.template.value || observed.config.template.value) = true)
    (hplan : i ∈ (Plan.planPass desired observed copied).plan.intents) (hi : i ∈ turn.steps)
    (hs : i.needsStopped = true) : turn.IsSkipped ↔ ∃ f ∈ before, f.Aborts := by
  have hdependency : turn.batch.first.dependency = .nothing :=
    (hu i hi).1.symm.trans (Plan.dependency_of_template ht hplan hs)
  have hfree (d : Dependency) (hd : d ≠ .nothing) : ¬turn.DependsOn d := fun hdepends =>
    hd (hdependency ▸ (hu.exists_dependency_iff.1 hdepends).symm)
  rw [h.skipped before turn later hsplit]
  simp [hfree .stoppedWindow (by decide), hfree .configApplied (by decide)]

/-- A batch with a step that needs a stopped instance begins with a change of the configuration, or is a disk that
is moved. -/
theorem Batch.Uniform.first_of_needsStopped {b : Batch} (hu : b.Uniform) (hi : i ∈ b.intents)
    (hplan : i ∈ (Plan.planPass desired observed copied).plan.intents) (hs : i.needsStopped = true) :
    b.first.op.isConfigChange = true ∨ ∃ slot store, b.first.op = .moveDisk slot store true := by
  obtain ⟨-, -, -, hop⟩ := Plan.needsStopped_spec hplan hs
  rcases (hu i hi).2 with rfl | ⟨-, hchange⟩
  · exact hop
  · exact .inl hchange

end Template

namespace Reconciler

open Steps

variable (r : Reconciler σ)

/-- In a pass over a running instance that neither is a template nor becomes one, every step that needs a
stopped instance comes in the window that a shutdown has opened, depends on it, and is never tried while the
instance runs, whatever the hypervisor answers. For a template there is no window: the plan holds such a step
without one, and it is carried out while the instance runs, unless the run was over before. -/
theorem disruption_windowed (desired : Desired) (observed : Observed) (copied : Bool)
    (hrun : observed.status.isRunning = true) (w : World σ) (t : Nat) :
    let plan := (Plan.planPass desired observed copied).plan
    let template := desired.config.template.value || observed.config.template.value
    (plan.Windowed ↔ template = false ∨ ∀ i ∈ plan.intents, i.needsStopped = false) ∧
      Tells (r.transcribed.execute observed.identity plan observed.status)
        (r.execute observed.identity plan observed.status) r.timeouts.toList w t fun result said =>
          ∃ done turns, result = .ok done ∧
            Ledger r.timeouts observed.identity plan observed.status said done turns ∧
            ∀ before turn later, turns = before ++ turn :: later → turn.Disrupts →
              if template then
                powered .running before = .running ∧ (turn.said = [] ↔ ∃ f ∈ before, f.Aborts)
              else powered .running before = .running → turn.said = [] := by
  intro plan template
  refine ⟨Plan.windowed_iff_of_running hrun, ?_⟩
  refine (r.transcribes_execute _ plan _).tells ((r.says_execute _ plan _).imp ?_) w t
  rintro result said ⟨turns, done, rfl, hbatches, rfl, hstory⟩
  have hledger := hstory.ledger hbatches
  have hu : ∀ turn ∈ turns, turn.batch.Uniform := fun turn hturn =>
    uniform_batches plan.intents _ (hbatches ▸ List.mem_map_of_mem hturn)
  have hgated := hstory.gated hu
  have hpower : (Progress.initial observed.identity observed.status).power = .running := by
    simp [Progress.initial, PowerState.ofStatus, hrun]
  refine ⟨done, turns, rfl, hledger, fun before turn later hsplit hdisrupts => ?_⟩
  have hmem {f : Turn} (hf : f ∈ turns) {i : Intent} (hi : i ∈ f.steps) : i ∈ plan.intents := by
    rw [← hledger.steps]
    exact List.mem_flatMap.2 ⟨f, hf, hi⟩
  have hturn : turn ∈ turns := by simp [hsplit]
  cases ht : template with
  | false =>
    rw [if_neg Bool.false_ne_true]
    intro hrunning
    have hguarded : Guarded false (turns.flatMap Turn.steps) := by
      rw [hledger.steps]
      exact Plan.windowed_iff.1 (Plan.windowed_of_not_template hrun ht)
    have hskipped : turn.IsSkipped :=
      hstory.skipped_of_guarded hu hguarded (by simp) before turn later hsplit hdisrupts (hpower ▸ hrunning)
    exact hgated.silent turn hturn hskipped
  | true =>
    rw [if_pos rfl]
    obtain ⟨i, hi, hs⟩ := hdisrupts
    have hskipped := hgated.isSkipped_iff_of_template hsplit (hu turn hturn) ht (hmem hturn hi) hi hs
    refine ⟨powered_of_template ht (fun f hf _ => hmem (by simp [hsplit, hf])) _, ?_⟩
    rw [← hskipped]
    refine ⟨fun hsilent => Classical.not_not.1 fun hhad => ?_, hgated.silent turn hturn⟩
    have hfirst := (hu turn hturn).first_of_needsStopped hi (hmem hturn hi) hs
    have hsound := hledger.sound before turn later hsplit
    exact hsound.said_ne_nil (Batch.carrier?_of_disrupts hfirst) hhad hsilent

end Reconciler

/-- A machine that is to become a template, with its disk in another store. -/
def convertedServer : Document where
  node := "pve1"
  id := some 100
  template := some true
  system := some { osType := some "l26" }
  disks := [{ interface := "scsi0", datastore := some "fast", sizeGib := some 8 }]

def convertedServerFound : Remote := .ofList [("scsi0", .string "local-lvm:vm-100-disk-0,size=8G")]

/-- Who hears nothing from the hypervisor. -/
def deafKeeper : Reconciler Unit := ⟨fun _ _ => ⟨.silent, fun _ => ()⟩, {}, 0⟩

theorem Reconciler.disruption_windowed_convertedServer : ∃ desired observed,
    convertedServer.desired {} = .ok desired ∧
    convertedServerFound.observe ⟨"pve1", 100, .vm⟩ ⟨.running, none⟩ = .ok observed ∧
    observed.status.isRunning = true ∧
    (∃ i ∈ (Plan.planPass desired observed false).plan.intents, i.op = .moveDisk "scsi0" "fast" true) ∧
    ¬(Plan.planPass desired observed false).plan.Windowed := by
  obtain ⟨desired, hd⟩ : ∃ desired, convertedServer.desired {} = .ok desired := ⟨_, rfl⟩
  have hmoves : (convertedServerFound.observe ⟨"pve1", 100, .vm⟩ ⟨.running, none⟩).toOption.map (fun o =>
      (Plan.planPass desired o false).plan.intents.any fun i =>
        decide (i.op = .moveDisk "scsi0" "fast" true)) = some true := by
    cases hd
    decide +kernel
  have htemplate : desired.config.template.value = true := by cases hd; rfl
  cases ho : convertedServerFound.observe ⟨"pve1", 100, .vm⟩ ⟨.running, none⟩ with
  | error failure => rw [ho] at hmoves; cases hmoves
  | ok observed =>
    rw [ho] at hmoves
    obtain ⟨i, hi, hop⟩ := List.any_eq_true.1 (Option.some.inj hmoves)
    have hop : i.op = .moveDisk "scsi0" "fast" true := of_decide_eq_true hop
    have hrun : observed.status.isRunning = true := by rw [(Remote.observe_spec ho).2.1]; rfl
    refine ⟨desired, observed, hd, rfl, hrun, ⟨i, hi, hop⟩, fun hwindowed => ?_⟩
    have hwindow := (disruption_windowed deafKeeper desired observed false hrun ⟨(), []⟩ 0).1
    rcases hwindow.1 hwindowed with hnot | hcalm
    · rw [htemplate] at hnot
      cases hnot
    · have hneeds : i.needsStopped = true := by rw [Intent.needsStopped, hop]
      rw [hcalm i hi] at hneeds
      cases hneeds

end Steward
