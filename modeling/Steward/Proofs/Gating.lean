/-
What keeps a step of a plan from being tried, and nothing else does: a migration that failed or a timeout
ends the run, a shutdown that failed to open the stopped window closes it for the steps that depend on it,
and a change of the configuration that failed keeps back what needs all of them. And all calls of a run go
to where the migrations before them have left the instance.
-/
import Mathlib
import Steward.Proofs.Ledger

namespace Steward

variable {σ : Type}

/-! ## Batches -/

/-- The steps of a batch depend on the same thing, and only changes of the configuration share a batch. -/
def Batch.Uniform (b : Batch) : Prop :=
  ∀ i ∈ b.intents, i.dependency = b.first.dependency ∧
    (i = b.first ∨ i.op.isConfigChange = true ∧ b.first.op.isConfigChange = true)

theorem uniform_batches (is : List Intent) : ∀ b ∈ batches is, b.Uniform := by
  have hsingle (i : Intent) : Batch.Uniform ⟨i, []⟩ := by simp [Batch.Uniform, Batch.intents]
  induction is with
  | nil => simp [batches]
  | cons i rest ih =>
    unfold batches
    cases hrest : batches rest with
    | nil => simpa using hsingle i
    | cons b more =>
      rw [hrest, List.forall_mem_cons] at ih
      dsimp only
      split
      · rename_i hjoins
        simp only [Intent.joins, Bool.and_eq_true, beq_iff_eq] at hjoins
        obtain ⟨⟨⟨hi, hb⟩, hdependency⟩, -⟩ := hjoins
        refine List.forall_mem_cons.2 ⟨fun j hj => ?_, ih.2⟩
        rcases List.mem_cons.1 hj with rfl | hj
        · exact ⟨rfl, .inl rfl⟩
        · obtain ⟨hsame, hj⟩ := ih.1 j hj
          refine ⟨hsame.trans hdependency.symm, .inr ⟨?_, hi⟩⟩
          rcases hj with rfl | hj
          · exact hb
          · exact hj.1
      · exact List.forall_mem_cons.2 ⟨hsingle i, List.forall_mem_cons.2 ih⟩

namespace Batch.Uniform

variable {b : Batch}

theorem exists_dependency_iff (h : b.Uniform) {d : Dependency} :
    (∃ i ∈ b.intents, i.dependency = d) ↔ b.first.dependency = d := by
  constructor
  · rintro ⟨i, hi, rfl⟩
    exact (h i hi).1.symm
  · exact fun hd => ⟨b.first, List.mem_cons_self, hd⟩

/-- What only a step that is no change of the configuration can be, the first one is. -/
theorem exists_iff_of_not_change (h : b.Uniform) {P : Intent → Prop}
    (hP : ∀ i, P i → i.op.isConfigChange = false) : (∃ i ∈ b.intents, P i) ↔ P b.first := by
  constructor
  · rintro ⟨i, hi, hPi⟩
    rcases (h i hi).2 with rfl | ⟨hchange, -⟩
    · exact hPi
    · rw [hP i hPi] at hchange
      cases hchange
  · exact fun hfirst => ⟨b.first, List.mem_cons_self, hfirst⟩

theorem exists_change_iff (h : b.Uniform) :
    (∃ i ∈ b.intents, i.op.isConfigChange = true) ↔ b.first.op.isConfigChange = true := by
  constructor
  · rintro ⟨i, hi, hchange⟩
    rcases (h i hi).2 with rfl | ⟨-, hfirst⟩
    · exact hchange
    · exact hfirst
  · exact fun hfirst => ⟨b.first, List.mem_cons_self, hfirst⟩

end Batch.Uniform

/-! ## What a turn means for later ones -/

namespace Turn

variable (turn : Turn)

def IsSkipped : Prop := ∃ why, turn.verdict = .skipped why

def DependsOn (d : Dependency) : Prop := ∃ i ∈ turn.steps, i.dependency = d

/-- A timeout, or a migration that failed. -/
def Aborts : Prop :=
  ∃ why, turn.verdict = .failed why ∧ (why.isTimeout = true ∨ ∃ i ∈ turn.steps, ∃ node, i.op = .migrate node)

/-- The shutdown that opens the stopped window failed. -/
def LosesWindow : Prop :=
  ∃ why, turn.verdict = .failed why ∧ ∃ i ∈ turn.steps, i.op = .shutdown ∧ i.reason = .stoppedWindow

/-- A change of the configuration failed. -/
def LosesConfig : Prop :=
  ∃ why, turn.verdict = .failed why ∧ ∃ i ∈ turn.steps, i.op.isConfigChange = true

end Turn

namespace Progress

variable {p : Progress} {turn : Turn}

theorem skipReason?_eq_none_iff {i : Intent} :
    p.skipReason? i = none ↔ p.aborted = none ∧ p.isBlocked i.dependency = false := by
  rw [skipReason?]
  cases p.aborted <;> cases p.isBlocked i.dependency <;> simp

theorem isSome_abortReason? {i : Intent} {why : Failure} :
    (abortReason? i why).isSome = true ↔ why.isTimeout = true ∨ ∃ node, i.op = .migrate node := by
  unfold abortReason?
  split
  · rename_i node hnode
    simp [hnode]
  · rename_i hother
    have hnone : ¬∃ node, i.op = .migrate node := fun ⟨node, hnode⟩ => hother node hnode
    cases why.isTimeout <;> simp [hnone]

theorem windowFailed_after (hu : turn.batch.Uniform) :
    (p.after turn).windowFailed = true ↔ p.windowFailed = true ∨ turn.LosesWindow := by
  have hfirst := hu.exists_iff_of_not_change (P := fun i => i.op = .shutdown ∧ i.reason = .stoppedWindow)
    fun i hi => by rw [hi.1]; rfl
  cases hv : turn.verdict with
  | succeeded => simp [after, succeed, Turn.LosesWindow, hv]
  | skipped => simp [after, skip, Turn.LosesWindow, hv]
  | failed => simp [after, fail, Turn.LosesWindow, Turn.steps, hv, hfirst]

theorem configFailed_after (hu : turn.batch.Uniform) :
    (p.after turn).configFailed = true ↔ p.configFailed = true ∨ turn.LosesConfig := by
  cases hv : turn.verdict with
  | succeeded => simp [after, succeed, Turn.LosesConfig, hv]
  | skipped => simp [after, skip, Turn.LosesConfig, hv]
  | failed => simp [after, fail, Turn.LosesConfig, Turn.steps, hv, hu.exists_change_iff]

theorem aborted_after (hu : turn.batch.Uniform) (hdue : turn.Due p) :
    (p.after turn).aborted.isSome = true ↔ p.aborted.isSome = true ∨ turn.Aborts := by
  have hfirst := hu.exists_iff_of_not_change (P := fun i => ∃ node, i.op = .migrate node)
    fun i ⟨node, hnode⟩ => by rw [hnode]; rfl
  rw [Turn.Due] at hdue
  cases hv : turn.verdict with
  | succeeded => simp [after, succeed, Turn.Aborts, hv]
  | skipped => simp [after, skip, Turn.Aborts, hv]
  | failed =>
    rw [hv] at hdue
    simp [after, fail, Turn.Aborts, Turn.steps, hv, hfirst, isSome_abortReason?,
      (skipReason?_eq_none_iff.1 hdue).1]

end Progress

namespace Story

variable {timeouts : Timeouts} {p q : Progress} {turns : List Turn}

/-- What has failed so far is what the turns have lost. -/
theorem flags (h : Story timeouts p turns q) (hu : ∀ turn ∈ turns, turn.batch.Uniform) :
    (q.aborted.isSome = true ↔ p.aborted.isSome = true ∨ ∃ turn ∈ turns, turn.Aborts) ∧
      (q.windowFailed = true ↔ p.windowFailed = true ∨ ∃ turn ∈ turns, turn.LosesWindow) ∧
      (q.configFailed = true ↔ p.configFailed = true ∨ ∃ turn ∈ turns, turn.LosesConfig) := by
  induction h with
  | done => simp
  | @turn p q turn rest hdue hsound hrest ih =>
    obtain ⟨hturn, hu⟩ := List.forall_mem_cons.1 hu
    simp only [ih hu, Progress.aborted_after hturn hdue, Progress.windowFailed_after hturn,
      Progress.configFailed_after hturn, List.exists_mem_cons_iff, or_assoc, and_self]

end Story

namespace Turn

variable {p : Progress} {turn : Turn}

/-- A turn is skipped if the run is over, or what it depends on has failed. -/
theorem isSkipped_iff (hdue : turn.Due p) (hu : turn.batch.Uniform) :
    turn.IsSkipped ↔ p.aborted.isSome = true ∨ turn.DependsOn .stoppedWindow ∧ p.windowFailed = true ∨
      turn.DependsOn .configApplied ∧ p.configFailed = true := by
  have hdepends (d : Dependency) : turn.DependsOn d ↔ turn.batch.first.dependency = d :=
    hu.exists_dependency_iff
  have hreason : turn.IsSkipped ↔ p.skipReason? turn.batch.first ≠ none := by
    rw [Due] at hdue
    cases hv : turn.verdict <;> simp_all [IsSkipped]
  rw [hreason, ne_eq, Progress.skipReason?_eq_none_iff, hdepends, hdepends]
  cases p.aborted <;> cases turn.batch.first.dependency <;> simp [Progress.isBlocked]

end Turn

/-! ## What the calls of a turn are about -/

namespace Call

/-- The instance that a call is about; none for a creation, which makes one. -/
def addressee? : Call → Option Identity
  | create .. => none
  | clone id .. | configuration id | status id | update id _ | moveDisk id _ | resizeDisk id _ | migrate id _
  | start id _ | shutdown id .. | stop id _ | reboot id _ => some id

def isUpdate : Call → Bool
  | update .. => true
  | _ => false

end Call

theorem Conducted.call {id : Identity} {c : Call} {target : Option RunState} {result : Except Failure Unit}
    {said : List Event} (h : Conducted id c target result said) :
    ∀ e ∈ said, e.call = c ∨ e.call = .status id := by
  obtain ⟨e, polls, rfl, hcall, ⟨-, rfl, -⟩ | ⟨-, hpolls⟩⟩ := h
  · simpa using .inl hcall
  · refine List.forall_mem_cons.2 ⟨.inl hcall, ?_⟩
    cases target with
    | none => simp [hpolls.1]
    | some state => exact fun e he => .inr (hpolls.1 e he)

namespace Batch

variable {b : Batch} {timeouts : Timeouts} {id : Identity} {power : PowerState} {c : Call}

/-- A batch is carried by a call to its instance, and only changes of the configuration by an update. -/
theorem addressee_carrier (h : b.carrier? timeouts id power = some c) :
    c.addressee? = some id ∧ c.isUpdate = b.first.op.isConfigChange := by
  unfold carrier? at h
  cases hop : b.first.op with
  | update | delete | moveDisk | resizeDisk | migrate =>
    simp only [hop] at h
    cases h
    exact ⟨rfl, rfl⟩
  | start | shutdown | stop | reboot =>
    simp only [hop] at h
    split at h <;> cases h
    exact ⟨rfl, rfl⟩

namespace CarriedOut

variable {result : Except Failure Unit} {said : List Event}

theorem addressee (h : b.CarriedOut timeouts id power result said) :
    ∀ e ∈ said, e.call.addressee? = some id := by
  unfold CarriedOut at h
  split at h
  · simp [h.1]
  · rename_i c hcarrier
    intro e he
    rcases h.call e he with hcall | hcall
    · rw [hcall, (addressee_carrier hcarrier).1]
    · rw [hcall]
      rfl

theorem isConfigChange (h : b.CarriedOut timeouts id power result said) {e : Event} (he : e ∈ said)
    (hupdate : e.call.isUpdate = true) : b.first.op.isConfigChange = true := by
  unfold CarriedOut at h
  split at h
  · rw [h.1] at he
    cases he
  · rename_i c hcarrier
    rcases h.call e he with hcall | hcall
    · rw [← (addressee_carrier hcarrier).2, ← hcall, hupdate]
    · rw [hcall] at hupdate
      cases hupdate

/-- A change of the configuration is one update, and fails exactly if that is refused. -/
theorem of_change (h : b.CarriedOut timeouts id power result said)
    (hchange : b.first.op.isConfigChange = true) :
    ∃ e, said = [e] ∧ e.call.isUpdate = true ∧ (e.isOk = false ↔ ∃ why, result = .error why) := by
  have hcarrier : b.carrier? timeouts id power = some (.update id b.request) ∧ b.first.op.target? = none := by
    unfold carrier?
    cases hop : b.first.op <;> simp_all [Operation.isConfigChange, Operation.target?]
  rw [CarriedOut, hcarrier.1, hcarrier.2] at h
  obtain ⟨e, polls, rfl, hcall, ⟨hrefused, rfl, why, rfl, -⟩ | ⟨hok, rfl, rfl⟩⟩ := h
  · exact ⟨e, rfl, by rw [hcall]; rfl, by simp [hrefused]⟩
  · exact ⟨e, rfl, by rw [hcall]; rfl, by simp [hok]⟩

theorem refused_update_iff (h : b.CarriedOut timeouts id power result said) :
    (∃ e ∈ said, e.call.isUpdate = true ∧ e.isOk = false) ↔
      (∃ why, result = .error why) ∧ b.first.op.isConfigChange = true := by
  constructor
  · rintro ⟨e, he, hupdate, hrefused⟩
    have hchange := h.isConfigChange he hupdate
    obtain ⟨first, rfl, -, hfails⟩ := h.of_change hchange
    obtain rfl := List.mem_singleton.1 he
    exact ⟨hfails.1 hrefused, hchange⟩
  · rintro ⟨hfailed, hchange⟩
    obtain ⟨e, rfl, hupdate, hfails⟩ := h.of_change hchange
    exact ⟨e, List.mem_singleton_self e, hupdate, hfails.2 hfailed⟩

end CarriedOut

end Batch

namespace Turn

variable {turn : Turn} {timeouts : Timeouts} {id : Identity} {power : PowerState}

theorem Sound.addressee (h : turn.Sound timeouts id power) :
    ∀ e ∈ turn.said, e.call.addressee? = some id := by
  unfold Sound at h
  split at h
  · exact h.addressee
  · exact h.addressee
  · simp [h]

theorem Sound.said_of_skipped (h : turn.Sound timeouts id power) (hskipped : turn.IsSkipped) :
    turn.said = [] := by
  obtain ⟨why, hwhy⟩ := hskipped
  rwa [Sound, hwhy] at h

/-- A change of the configuration has failed exactly if an update was refused. -/
theorem Sound.losesConfig_iff (h : turn.Sound timeouts id power) (hu : turn.batch.Uniform) :
    turn.LosesConfig ↔ ∃ e ∈ turn.said, e.call.isUpdate = true ∧ e.isOk = false := by
  unfold Sound at h
  rw [LosesConfig, steps, hu.exists_change_iff, exists_and_right]
  split at h
  · rename_i hv
    simp [hv, h.refused_update_iff]
  · rename_i hv
    simp [hv, h.refused_update_iff]
  · rename_i hv
    simp [hv, h]

end Turn

/-! ## Runs -/

/-- What the turns of a run on an instance depend on, and whom their calls address. -/
structure Gated (id : Identity) (done : Progress) (turns : List Turn) : Prop where
  /-- There is no other reason for a step not to be tried. -/
  skipped : ∀ before turn later, turns = before ++ turn :: later →
    (turn.IsSkipped ↔ (∃ f ∈ before, f.Aborts) ∨
      turn.DependsOn .stoppedWindow ∧ (∃ f ∈ before, f.LosesWindow) ∨
      turn.DependsOn .configApplied ∧ ∃ f ∈ before, ∃ e ∈ f.said, e.call.isUpdate = true ∧ e.isOk = false)
  silent : ∀ turn ∈ turns, turn.IsSkipped → turn.said = []
  aborted : ∀ before f later, turns = before ++ f :: later → f.Aborts →
    ∀ turn ∈ later, turn.IsSkipped ∧ turn.said = []
  addressee : ∀ before turn later, turns = before ++ turn :: later →
    ∀ e ∈ turn.said, e.call.addressee? = some (located id before)
  identity : done.identity = located id turns

namespace Story

variable {timeouts : Timeouts} {p q : Progress} {id : Identity} {status : Status} {turns : List Turn}

theorem sound_of_mem (h : Story timeouts p turns q) {turn : Turn} (hturn : turn ∈ turns) :
    ∃ id power, turn.Sound timeouts id power := by
  obtain ⟨before, later, rfl⟩ := List.append_of_mem hturn
  obtain ⟨m, -, -, hsound⟩ := h.split
  exact ⟨_, _, hsound⟩

/-- The turns that have lost the configuration are those with an update that was refused. -/
theorem exists_losesConfig_iff (h : Story timeouts p turns q) (hu : ∀ turn ∈ turns, turn.batch.Uniform) :
    (∃ f ∈ turns, f.LosesConfig) ↔ ∃ f ∈ turns, ∃ e ∈ f.said, e.call.isUpdate = true ∧ e.isOk = false := by
  refine exists_congr fun f => and_congr_right fun hf => ?_
  obtain ⟨_, _, hsound⟩ := h.sound_of_mem hf
  exact hsound.losesConfig_iff (hu f hf)

theorem gated (h : Story timeouts (.initial id status) turns q)
    (hu : ∀ turn ∈ turns, turn.batch.Uniform) : Gated id q turns := by
  have hskipped (before : List Turn) (turn : Turn) (later : List Turn)
      (hturns : turns = before ++ turn :: later) :
      turn.IsSkipped ↔ (∃ f ∈ before, f.Aborts) ∨
        turn.DependsOn .stoppedWindow ∧ (∃ f ∈ before, f.LosesWindow) ∨
        turn.DependsOn .configApplied ∧
          ∃ f ∈ before, ∃ e ∈ f.said, e.call.isUpdate = true ∧ e.isOk = false := by
    subst hturns
    -- What the run has noted when a turn comes is what the turns before it have lost.
    obtain ⟨m, hbefore, hdue, -⟩ := h.split
    have hubefore : ∀ f ∈ before, f.batch.Uniform := fun f hf => hu f (List.mem_append_left _ hf)
    obtain ⟨haborted, hwindow, hconfig⟩ := hbefore.flags hubefore
    rw [Turn.isSkipped_iff hdue (hu turn (by simp)), haborted, hwindow, hconfig,
      hbefore.exists_losesConfig_iff hubefore]
    simp [Progress.initial]
  have hsilent (turn : Turn) (hturn : turn ∈ turns) (h' : turn.IsSkipped) : turn.said = [] := by
    obtain ⟨_, _, hsound⟩ := h.sound_of_mem hturn
    exact hsound.said_of_skipped h'
  refine ⟨hskipped, hsilent, ?_, ?_, h.identity⟩
  · intro before f later hturns haborts turn hturn
    obtain ⟨between, last, rfl⟩ := List.append_of_mem hturn
    have hsplit : turns = (before ++ f :: between) ++ turn :: last := by simpa using hturns
    have hover : turn.IsSkipped := (hskipped _ _ _ hsplit).2 (.inl ⟨f, by simp, haborts⟩)
    exact ⟨hover, hsilent turn (by simp [hturns]) hover⟩
  · rintro before turn later rfl
    obtain ⟨m, hbefore, -, hsound⟩ := h.split
    rw [show located id before = m.identity from hbefore.identity.symm]
    exact hsound.addressee

end Story

namespace Reconciler

open Steps

variable (r : Reconciler σ)

/-- A run tries every step, but nothing after a migration that failed or after a timeout, no step of a
stopped window that did not open, and no step that needs all changes of the configuration after an update
that was refused. All its calls address the instance where the migrations so far have left it. -/
theorem execute_gated (id : Identity) (plan : Plan) (status : Status) (w : World σ) (t : Nat) :
    Tells (r.transcribed.execute id plan status) (r.execute id plan status) r.timeouts.toList w t
      fun result said =>
      ∃ done turns, result = .ok done ∧ Ledger r.timeouts id plan status said done turns ∧
        Gated id done turns := by
  refine (r.transcribes_execute id plan status).tells ((r.says_execute id plan status).imp ?_) w t
  rintro result said ⟨turns, done, rfl, hbatches, rfl, hstory⟩
  refine ⟨done, turns, rfl, hstory.ledger hbatches, hstory.gated fun turn hturn => ?_⟩
  exact uniform_batches plan.intents _ (hbatches ▸ List.mem_map_of_mem hturn)

end Reconciler

end Steward
