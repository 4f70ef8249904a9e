/-
The ledger of a run: every step of the plan has exactly one of three ends, the lists of them keep the order
of the plan, and steps that went into one call share their end. Success is never claimed without the answers
that show it, and there is one failure for each call that failed.
-/
import Mathlib
import Steward.Proofs.Turn

namespace Steward

variable {σ : Type}

/-! ## Where the turns of a run leave the instance -/

/-- The node that a turn has moved the instance to. -/
def Turn.movedTo? (turn : Turn) : Option String :=
  match turn.verdict, turn.batch.first.op with
  | .succeeded, .migrate node => some node
  | _, _ => none

/-- Where an instance lives after some turns: on the node of the latest migration that succeeded. -/
def located (id : Identity) (turns : List Turn) : Identity :=
  match (turns.filterMap Turn.movedTo?).getLast? with
  | some node => id.onNode node
  | none => id

/-- The power state after some turns, by the actions that succeeded. -/
def powered (power : PowerState) (turns : List Turn) : PowerState :=
  turns.foldl (fun power turn => turn.powerAfter power) power

theorem located_cons (id : Identity) (turn : Turn) (turns : List Turn) :
    located id (turn :: turns) = located (turn.identityAfter id) turns := by
  obtain ⟨⟨⟨op, reason, dependency⟩, others⟩, said, verdict⟩ := turn
  cases verdict with
  | failed | skipped => rfl
  | succeeded =>
    cases op with
    | migrate node =>
      simp only [located, Turn.movedTo?, List.filterMap_cons, List.getLast?_cons, Turn.identityAfter,
        Operation.identityAfter]
      cases (turns.filterMap Turn.movedTo?).getLast? <;> rfl
    | _ => rfl

/-! ## What a story adds up to -/

namespace Story

variable {timeouts : Timeouts} {p q : Progress} {turns : List Turn}

theorem identity (h : Story timeouts p turns q) : q.identity = located p.identity turns := by
  induction h with
  | done => rfl
  | @turn p q turn rest hdue hsound hrest ih =>
    rw [ih, located_cons]
    congr 1
    cases hv : turn.verdict <;> simp [Progress.after, Progress.succeed, Progress.fail, Progress.skip,
      Turn.identityAfter, hv]

theorem power (h : Story timeouts p turns q) : q.power = powered p.power turns := by
  induction h with
  | done => rfl
  | @turn p q turn rest hdue hsound hrest ih =>
    rw [ih, powered, powered, List.foldl_cons]
    congr 1
    cases hv : turn.verdict <;> simp [Progress.after, Progress.succeed, Progress.fail, Progress.skip,
      Turn.powerAfter, hv]

theorem applied (h : Story timeouts p turns q) :
    q.applied.succeeded = p.applied.succeeded ++ turns.flatMap Turn.succeeded ∧
      q.applied.failed = p.applied.failed ++ turns.flatMap Turn.failed ∧
      q.applied.skipped = p.applied.skipped ++ turns.flatMap Turn.skipped ∧
      q.failures = p.failures ++ turns.filterMap Turn.failure? := by
  induction h with
  | done => simp
  | @turn p q turn rest hdue hsound hrest ih =>
    cases hv : turn.verdict <;>
      simp [ih, Progress.after, Progress.succeed, Progress.fail, Progress.skip, Applied.succeed,
        Applied.fail, Applied.skip, Turn.succeeded, Turn.failed, Turn.skipped, Turn.failure?, Turn.steps, hv]

end Story

/-! ## The ledger -/

/-- The ledger of a run over a plan, from what was said in it, by the turns of its batches. -/
structure Ledger (timeouts : Timeouts) (id : Identity) (plan : Plan) (status : Status) (said : List Event)
    (done : Progress) (turns : List Turn) : Prop where
  /-- There is one turn for each call that the steps are grouped into. -/
  batches : turns.map Turn.batch = Steward.batches plan.intents
  steps : turns.flatMap Turn.steps = plan.intents
  said : turns.flatMap Turn.said = said
  succeeded : done.applied.succeeded = turns.flatMap Turn.succeeded
  failed : done.applied.failed = turns.flatMap Turn.failed
  skipped : done.applied.skipped = turns.flatMap Turn.skipped
  failures : done.failures = turns.filterMap Turn.failure?
  /-- Each turn ends as its calls and their answers tell. -/
  sound : ∀ before turn later, turns = before ++ turn :: later →
    turn.Sound timeouts (located id before) (powered (.ofStatus status) before)

theorem Story.ledger {timeouts : Timeouts} {id : Identity} {plan : Plan} {status : Status}
    {done : Progress} {turns : List Turn} (h : Story timeouts (.initial id status) turns done)
    (hbatches : turns.map Turn.batch = batches plan.intents) :
    Ledger timeouts id plan status (turns.flatMap Turn.said) done turns where
  batches := hbatches
  steps := by
    rw [← intents_batches plan.intents, ← hbatches, List.flatMap_map]
    rfl
  said := rfl
  succeeded := h.applied.1
  failed := h.applied.2.1
  skipped := h.applied.2.2.1
  failures := h.applied.2.2.2
  sound := by
    rintro before turn later rfl
    obtain ⟨m, hbefore, -, hsound⟩ := h.split
    rwa [hbefore.identity, hbefore.power] at hsound

namespace Turn

variable (turn : Turn)

theorem succeeded_sublist : turn.succeeded.Sublist turn.steps := by
  unfold succeeded
  split
  · exact List.Sublist.refl _
  · exact List.nil_sublist _

theorem failed_sublist : (turn.failed.map Prod.fst).Sublist turn.steps := by
  unfold failed
  split
  · rw [List.map_map, Function.comp_def, List.map_id']
  · exact List.nil_sublist _

theorem skipped_sublist : (turn.skipped.map Prod.fst).Sublist turn.steps := by
  unfold skipped
  split
  · rw [List.map_map, Function.comp_def, List.map_id']
  · exact List.nil_sublist _

/-- A turn has one end. -/
theorem ends : turn.succeeded ++ turn.failed.map Prod.fst ++ turn.skipped.map Prod.fst = turn.steps := by
  cases hv : turn.verdict <;> simp [succeeded, failed, skipped, hv, Function.comp_def]

theorem steps_ne_nil : turn.steps ≠ [] := List.cons_ne_nil _ _

theorem failed_eq_nil_iff : turn.failed = [] ↔ turn.failure? = none := by
  cases hv : turn.verdict <;> simp [failed, failure?, hv, steps_ne_nil]

end Turn

/-- The parts of lists that follow one another, put together part by part, are the lists again. -/
theorem flatMap_parts_perm {α β : Type} (f g k : α → List β) (l : List α) :
    (l.flatMap f ++ l.flatMap g ++ l.flatMap k).Perm (l.flatMap fun a => f a ++ g a ++ k a) :=
  ((List.flatMap_append_perm l f g).append_right _).trans (List.flatMap_append_perm l _ k)

namespace Ledger

variable {timeouts : Timeouts} {id : Identity} {plan : Plan} {status : Status} {said : List Event}
  {done : Progress} {turns : List Turn}

theorem map_failed (h : Ledger timeouts id plan status said done turns) :
    done.applied.failed.map Prod.fst = turns.flatMap fun turn => turn.failed.map Prod.fst := by
  rw [h.failed, List.map_flatMap]

theorem map_skipped (h : Ledger timeouts id plan status said done turns) :
    done.applied.skipped.map Prod.fst = turns.flatMap fun turn => turn.skipped.map Prod.fst := by
  rw [h.skipped, List.map_flatMap]

/-- The three lists are the plan. -/
theorem perm (h : Ledger timeouts id plan status said done turns) :
    (done.applied.succeeded ++ done.applied.failed.map Prod.fst ++
      done.applied.skipped.map Prod.fst).Perm plan.intents := by
  rw [h.succeeded, h.map_failed, h.map_skipped, ← h.steps]
  refine (flatMap_parts_perm _ _ _ _).trans ?_
  rw [funext Turn.ends]

/-- The three lists keep the order of the plan. -/
theorem sublists (h : Ledger timeouts id plan status said done turns) :
    done.applied.succeeded.Sublist plan.intents ∧
      (done.applied.failed.map Prod.fst).Sublist plan.intents ∧
      (done.applied.skipped.map Prod.fst).Sublist plan.intents := by
  rw [h.succeeded, h.map_failed, h.map_skipped, ← h.steps]
  exact ⟨.flatMap_right _ fun turn _ => turn.succeeded_sublist,
    .flatMap_right _ fun turn _ => turn.failed_sublist, .flatMap_right _ fun turn _ => turn.skipped_sublist⟩

theorem failures_eq_nil_iff (h : Ledger timeouts id plan status said done turns) :
    done.failures = [] ↔ done.applied.failed = [] := by
  rw [h.failures, h.failed, List.filterMap_eq_nil_iff, List.flatMap_eq_nil_iff]
  exact forall₂_congr fun turn _ => turn.failed_eq_nil_iff.symm

end Ledger

namespace Reconciler

open Steps

variable (r : Reconciler σ)

theorem says_execute (id : Identity) (plan : Plan) (status : Status) :
    (r.transcribed.execute id plan status).Says r.timeouts.toList fun result said =>
      ∃ turns done, result = .ok done ∧ turns.map Turn.batch = batches plan.intents ∧ turns.flatMap Turn.said = said ∧
        Story r.timeouts (.initial id status) turns done :=
  r.says_runBatches _ _

/-- Carrying out a plan ends, unless a reading of the status is never answered or the run panics, and leaves a
ledger. A panic comes of a call, or of a timeout past the last moment of the clock. Every step is in exactly
one of the three lists, in the order of the plan and together with the steps of its call; and a failure stands
for each call that failed. -/
theorem execute_accounted (id : Identity) (plan : Plan) (status : Status) (w : World σ) (t : Nat) :
    Tells (r.transcribed.execute id plan status) (r.execute id plan status) r.timeouts.toList w t
      fun result said =>
      ∃ done turns, result = .ok done ∧ Ledger r.timeouts id plan status said done turns ∧
        (done.applied.succeeded ++ done.applied.failed.map Prod.fst ++
          done.applied.skipped.map Prod.fst).Perm plan.intents ∧
        done.applied.succeeded.Sublist plan.intents ∧
        (done.applied.failed.map Prod.fst).Sublist plan.intents ∧
        (done.applied.skipped.map Prod.fst).Sublist plan.intents ∧
        (done.failures = [] ↔ done.applied.failed = []) := by
  refine (r.transcribes_execute id plan status).tells ((r.says_execute id plan status).imp ?_) w t
  rintro result said ⟨turns, done, rfl, hbatches, rfl, hstory⟩
  have hledger := hstory.ledger hbatches
  obtain ⟨hsucceeded, hfailed, hskipped⟩ := hledger.sublists
  exact ⟨done, turns, rfl, hledger, hledger.perm, hsucceeded, hfailed, hskipped,
    hledger.failures_eq_nil_iff⟩

end Reconciler

end Steward
