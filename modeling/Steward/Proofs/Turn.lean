/-
The turns of a plan. A plan is carried out batch by batch, and each batch gets one turn: it is skipped and
nothing is said for it, or its call is made and its state waited for, and it succeeds or fails as a whole.
A run is the story of its turns (`says_runBatches`).
-/
import Mathlib
import Steward.Proofs.Conversation

namespace Steward

variable {σ : Type}

/-! ## Operations and their calls -/

namespace Operation

/-- The state that an operation has to lead to. -/
def target? : Operation → Option RunState
  | start | reboot => some .running
  | shutdown | stop => some .stopped
  | _ => none

/-- The power state after an operation that succeeded. -/
def powerAfter (power : PowerState) : Operation → PowerState
  | start => .running
  | shutdown | stop => .stopped
  | _ => power

/-- Where an instance lives after an operation that succeeded. -/
def identityAfter (id : Identity) : Operation → Identity
  | migrate node => id.onNode node
  | _ => id

end Operation

namespace Batch

/-- The call that carries a batch; none for a power action that is not needed: starting what runs, stopping
what is stopped, restarting what does not run. -/
def carrier? (b : Batch) (timeouts : Timeouts) (id : Identity) (power : PowerState) : Option Call :=
  match b.first.op with
  | .update .. | .delete .. => some (.update id b.request)
  | .moveDisk interface datastore deleteOriginal => some (.moveDisk id ⟨interface, datastore, deleteOriginal⟩)
  | .resizeDisk interface size => some (.resizeDisk id ⟨interface, size⟩)
  | .migrate node => some (.migrate id ⟨node, true, power == .running⟩)
  | .start => if power = .running then none else some (.start id timeouts.start)
  | .shutdown => if power = .stopped then none else some (.shutdown id true (gracefulTime timeouts.shutdown))
  | .stop => if power = .stopped then none else some (.stop id timeouts.stop)
  | .reboot => if power = .running then some (.reboot id timeouts.reboot) else none

/-- What is said for a batch that is tried, with what comes of it. -/
def CarriedOut (b : Batch) (timeouts : Timeouts) (id : Identity) (power : PowerState)
    (result : Except Failure Unit) (said : List Event) : Prop :=
  match b.carrier? timeouts id power with
  | none => said = [] ∧ result = .ok ()
  | some c => Conducted id c b.first.op.target? result said

end Batch

/-! ## Turns -/

/-- How the turn of a batch ended. -/
inductive Verdict
  | succeeded
  | failed (why : Failure)
  | skipped (why : SkipReason)

/-- The turn of a batch: what was said for it and how it ended. -/
structure Turn where
  batch : Batch
  said : List Event
  verdict : Verdict

namespace Turn

def steps (turn : Turn) : List Intent := turn.batch.intents

def succeeded (turn : Turn) : List Intent :=
  match turn.verdict with
  | .succeeded => turn.steps
  | _ => []

def failed (turn : Turn) : List (Intent × Failure) :=
  match turn.verdict with
  | .failed why => turn.steps.map fun i => (i, why)
  | _ => []

def skipped (turn : Turn) : List (Intent × SkipReason) :=
  match turn.verdict with
  | .skipped why => turn.steps.map fun i => (i, why)
  | _ => []

def failure? (turn : Turn) : Option Failure :=
  match turn.verdict with
  | .failed why => some why
  | _ => none

def identityAfter (turn : Turn) (id : Identity) : Identity :=
  match turn.verdict with
  | .succeeded => turn.batch.first.op.identityAfter id
  | _ => id

def powerAfter (turn : Turn) (power : PowerState) : PowerState :=
  match turn.verdict with
  | .succeeded => turn.batch.first.op.powerAfter power
  | _ => power

/-- A turn ends as what was said for it tells, on an instance that lives there and is in that state. -/
def Sound (turn : Turn) (timeouts : Timeouts) (id : Identity) (power : PowerState) : Prop :=
  match turn.verdict with
  | .succeeded => turn.batch.CarriedOut timeouts id power (.ok ()) turn.said
  | .failed why => turn.batch.CarriedOut timeouts id power (.error why) turn.said
  | .skipped _ => turn.said = []

/-- A turn is skipped exactly if there is a reason for it in what has happened so far. -/
def Due (turn : Turn) (p : Progress) : Prop :=
  match turn.verdict with
  | .skipped why => p.skipReason? turn.batch.first = some why
  | _ => p.skipReason? turn.batch.first = none

end Turn

/-- What a turn adds to the progress of a run. -/
def Progress.after (p : Progress) (turn : Turn) : Progress :=
  match turn.verdict with
  | .succeeded => p.succeed turn.batch (turn.identityAfter p.identity) (turn.powerAfter p.power)
  | .failed why => p.fail turn.batch why
  | .skipped why => p.skip turn.batch why

/-- The turns that lead from one progress to another. -/
inductive Story (timeouts : Timeouts) : Progress → List Turn → Progress → Prop
  | done (p : Progress) : Story timeouts p [] p
  | turn {p q : Progress} {turn : Turn} {rest : List Turn} :
      turn.Due p → turn.Sound timeouts p.identity p.power → Story timeouts (p.after turn) rest q →
        Story timeouts p (turn :: rest) q

theorem Story.split {timeouts : Timeouts} {p q : Progress} {before later : List Turn} {turn : Turn}
    (h : Story timeouts p (before ++ turn :: later) q) :
    ∃ m, Story timeouts p before m ∧ turn.Due m ∧ turn.Sound timeouts m.identity m.power := by
  induction before generalizing p with
  | nil =>
    cases h with
    | turn hdue hsound hrest => exact ⟨p, .done p, hdue, hsound⟩
  | cons first before ih =>
    cases h with
    | turn hdue hsound hrest =>
      obtain ⟨m, hm, hturn⟩ := ih hrest
      exact ⟨m, .turn hdue hsound hm, hturn⟩

/-! ## Runs -/

namespace Reconciler

open Steps

variable (r : Reconciler σ)

theorem says_actPower (id : Identity) {timeout : Duration} (action : PowerAction) (state : PowerState)
    (hwaits : timeout ∈ r.timeouts.toList) :
    (r.transcribed.actPower id timeout action state).Says r.timeouts.toList fun result said =>
      ∃ after, Hypervisor.Acted id timeout action state after said ∧
        result = after.map fun after => (id, after) := by
  refine (r.hypervisor.says_power id r.interval action state hwaits).bind (fun why said hsaid => ?_)
    fun outcome said hsaid => ?_
  · obtain ⟨_, _, hresult, -⟩ := hsaid
    cases hresult
  · obtain ⟨result, after, hresult, hacted⟩ := hsaid
    cases hresult
    cases result with
    | ok done => exact .pure ⟨_, by simpa using hacted.acted, rfl⟩
    | error why => exact .throw ⟨_, by simpa using hacted.acted, rfl⟩

/-- A power action is an operation whose call is made only if it is needed. -/
theorem says_powerTurn {id : Identity} {power : PowerState} {b : Batch} {timeout : Duration}
    {action : PowerAction} (hwaits : timeout ∈ r.timeouts.toList)
    (hcarrier : b.carrier? r.timeouts id power =
      if action.isNeeded power then some (action.call id timeout) else none)
    (htarget : b.first.op.target? = some action.target)
    (hafter : b.first.op.powerAfter power = if action.isNeeded power then action.reached else power) :
    (r.transcribed.actPower id timeout action power).Says r.timeouts.toList fun result said =>
      b.CarriedOut r.timeouts id power (result.map fun _ => ()) said ∧
        ∀ after, result = .ok after → after = (id, b.first.op.powerAfter power) := by
  refine (r.says_actPower id action power hwaits).imp fun result said hacted => ?_
  obtain ⟨state, hacted, rfl⟩ := hacted
  rw [Batch.CarriedOut, hcarrier, htarget, hafter]
  unfold Hypervisor.Acted at hacted
  split at hacted
  · rename_i hneeded
    rw [if_pos hneeded, if_pos hneeded]
    cases state with
    | error why => exact ⟨hacted.1, fun after hafter => nomatch hafter⟩
    | ok state =>
      refine ⟨hacted.1, fun after hafter => ?_⟩
      cases hafter
      rw [hacted.2 state rfl]
  · rename_i hneeded
    rw [if_neg hneeded, if_neg hneeded]
    obtain ⟨rfl, rfl⟩ := hacted
    exact ⟨⟨rfl, rfl⟩, fun after hafter => (Except.ok.inj hafter).symm⟩

theorem says_act (id : Identity) (power : PowerState) (b : Batch) :
    (r.transcribed.act id power b).Says r.timeouts.toList fun result said =>
      b.CarriedOut r.timeouts id power (result.map fun _ => ()) said ∧
        ∀ after, result = .ok after →
          after = (b.first.op.identityAfter id, b.first.op.powerAfter power) := by
  have hconduct {what : String} {timeout : Duration} {c : Call} {after : Identity × PowerState}
      (hcarrier : b.carrier? r.timeouts id power = some c) (htarget : b.first.op.target? = none)
      (hafter : after = (b.first.op.identityAfter id, b.first.op.powerAfter power)) :
      (r.hypervisor.transcribed.callWithin what timeout c >>= fun _ => Pure.pure after).Says
        r.timeouts.toList fun result said => b.CarriedOut r.timeouts id power (result.map fun _ => ()) said ∧
          ∀ after, result = .ok after →
            after = (b.first.op.identityAfter id, b.first.op.powerAfter power) := by
    refine (r.hypervisor.says_conduct id what timeout c after).imp fun result said hsaid => ?_
    rwa [← hafter, Batch.CarriedOut, hcarrier, htarget]
  obtain ⟨⟨op, reason, dependency⟩, others⟩ := b
  cases op with
  | update | delete | moveDisk | resizeDisk | migrate => exact hconduct rfl rfl rfl
  | start | shutdown | stop | reboot =>
    exact r.says_powerTurn (by simp [Timeouts.toList]) (by cases power <;> rfl) rfl (by cases power <;> rfl)

/-- A batch gets one turn. -/
theorem says_step (p : Progress) (b : Batch) :
    (r.transcribed.step p b).Says r.timeouts.toList fun result said =>
      ∃ turn : Turn, turn.batch = b ∧ turn.said = said ∧
        turn.Due p ∧ turn.Sound r.timeouts p.identity p.power ∧ result = .ok (p.after turn) := by
  unfold step
  split
  · rename_i why hwhy
    exact .pure ⟨⟨b, [], .skipped why⟩, rfl, rfl, hwhy, rfl, rfl⟩
  · rename_i hdue
    refine (r.says_act p.identity p.power b).bind_attempt fun result said hsaid => ?_
    obtain ⟨hcarried, hafter⟩ := hsaid
    cases result with
    | ok after =>
      obtain rfl := hafter after rfl
      exact .pure ⟨⟨b, said, .succeeded⟩, rfl, (List.append_nil _).symm, hdue, hcarried, rfl⟩
    | error why =>
      exact .pure ⟨⟨b, said, .failed why⟩, rfl, (List.append_nil _).symm, hdue, hcarried, rfl⟩

/-- A run is the story of the turns of its batches, each in its place. -/
theorem says_runBatches (p : Progress) (bs : List Batch) :
    (r.transcribed.runBatches p bs).Says r.timeouts.toList fun result said => ∃ turns done, result = .ok done ∧
      turns.map Turn.batch = bs ∧ turns.flatMap Turn.said = said ∧ Story r.timeouts p turns done := by
  -- The turn of a batch stands before the story that the rest makes of the progress after it.
  induction bs generalizing p with
  | nil => exact .pure ⟨[], p, rfl, rfl, rfl, .done p⟩
  | cons b rest ih =>
    refine (r.says_step p b).bind (fun why said hstep => ?_) fun next said hstep => ?_
    · obtain ⟨_, -, -, -, -, hresult⟩ := hstep
      cases hresult
    · obtain ⟨turn, rfl, rfl, hdue, hsound, hresult⟩ := hstep
      cases hresult
      refine (ih _).imp fun result more hrest => ?_
      obtain ⟨turns, done, rfl, rfl, rfl, hstory⟩ := hrest
      exact ⟨turn :: turns, done, rfl, rfl, rfl, .turn hdue hsound hstory⟩

end Reconciler

end Steward
