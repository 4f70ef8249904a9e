/-
Power calls one after another. Between them the tracked state is running or stopped: a call that succeeds had
nothing to do or has seen its target, and a call that fails leaves the state as it was, for a reason that the
hypervisor gave or because it took too long (`powerAll_settled`).
-/
import Mathlib
import Steward.Proofs.Conversation

namespace Steward

variable {σ : Type}

/-- A state in which nothing is under way. -/
def PowerState.IsSettled (s : PowerState) : Prop := s = .running ∨ s = .stopped

namespace PowerAction

theorem isSettled_reached (a : PowerAction) : a.reached.IsSettled := by
  cases a <;> simp [reached, target, PowerState.IsSettled]

theorem isNeeded_eq_false_iff {a : PowerAction} {s : PowerState} :
    a.isNeeded s = false ↔ (a ≠ .reboot → s = a.reached) ∧ (a = .reboot → s ≠ .running) := by
  cases a <;> simp [isNeeded]

end PowerAction

/-! ## One call -/

/-- A power action on an instance, and how long it may take. -/
structure PowerCall where
  id : Identity
  timeout : Duration
  action : PowerAction

def PowerCall.request (c : PowerCall) : Call := c.action.call c.id c.timeout

/-- A power call that has ended: the states before and after it, what was said, and what came of it. -/
structure PowerTurn where
  call : PowerCall
  before : PowerState
  said : List Event
  outcome : Except Failure Bool
  after : PowerState

namespace PowerTurn

variable (turn : PowerTurn)

/-- Nothing was to be done: the state was the target already, or there was nothing running to restart. -/
structure Idle (done : Bool) : Prop where
  said : turn.said = []
  after : turn.after = turn.before
  reached : turn.call.action ≠ .reboot → turn.before = turn.call.action.reached ∧ done = true
  reboot : turn.call.action = .reboot → turn.before ≠ .running ∧ done = false

/-- One power call was made and succeeded, and the last reading after it showed the target. -/
structure Reached (done : Bool) : Prop where
  done : done = true
  after : turn.after = turn.call.action.reached
  said : ∃ e readings last, turn.said = e :: (readings ++ [last]) ∧ e.call = turn.call.request ∧ e.isOk = true ∧
    (∀ reading ∈ readings ++ [last], reading.call = .status turn.call.id) ∧
    last.shows (.state turn.call.action.target) = true

/-- The failure was that of the power call, or of the first reading after it that failed for good, or it took too
long. -/
structure Failed (why : Failure) : Prop where
  after : turn.after = turn.before
  said : ∃ e readings, turn.said = e :: readings ∧ e.call = turn.call.request ∧
    (∀ reading ∈ readings, reading.call = .status turn.call.id) ∧
    (e.failure? = some why ∧ readings = [] ∨
      e.isOk = true ∧ why.isTransient = false ∧ (∃ before last, readings = before ++ [last] ∧
        last.failure? = some why ∧
        ∀ reading ∈ before, ∀ other, reading.failure? = some other → other.isTransient = true) ∨
      why.isTimeout = true)

/-- A call is answered as what was said for it tells. -/
structure Sound : Prop where
  ok : ∀ done, turn.outcome = .ok done → turn.Idle done ∨ turn.Reached done
  error : ∀ why, turn.outcome = .error why → turn.Failed why

variable {turn} {before after : PowerState} {outcome : Except Failure Bool} {said : List Event}

theorem reached_of_powered {c : PowerCall} (h : Hypervisor.Powered c.id c.timeout c.action (.ok ()) said) :
    Reached ⟨c, before, said, .ok true, c.action.reached⟩ true := by
  cases h with
  | made hcall hok hpolls =>
    have hreadings := hpolls.call
    cases hpolls with
    | reached _ _ hlast => exact ⟨rfl, rfl, _, _, _, rfl, hcall, hok, hreadings, hlast⟩

theorem failed_of_powered {c : PowerCall} {why : Failure}
    (h : Hypervisor.Powered c.id c.timeout c.action (.error why) said) :
    Failed ⟨c, before, said, .error why, before⟩ why := by
  cases h with
  | refused hcall hok hwhy =>
    refine ⟨rfl, _, [], rfl, hcall, by simp, ?_⟩
    rcases hwhy with hfailure | ⟨-, hlate⟩
    · exact .inl ⟨hfailure, rfl⟩
    · exact .inr (.inr hlate)
  | made hcall hok hpolls =>
    refine ⟨rfl, _, _, rfl, hcall, hpolls.call, .inr ?_⟩
    cases hpolls with
    | failed hbefore _ hlast hwhy =>
      exact .inl ⟨hok, hwhy, _, _, rfl, hlast, fun reading hreading => (hbefore reading hreading).passes⟩
    | late _ hlate => exact .inr hlate

theorem sound_of_handled {c : PowerCall}
    (h : Hypervisor.Handled c.id c.timeout c.action before outcome after said) :
    Sound ⟨c, before, said, outcome, after⟩ := by
  cases h with
  | idle hidle =>
    obtain ⟨hreached, hreboot⟩ := PowerAction.isNeeded_eq_false_iff.1 hidle
    refine ⟨fun done hdone => .inl ⟨rfl, rfl, fun h => ⟨hreached h, ?_⟩, fun h => ⟨hreboot h, ?_⟩⟩,
      fun why hwhy => nomatch hwhy⟩
    · rw [← Except.ok.inj hdone]
      simpa using h
    · rw [← Except.ok.inj hdone]
      simpa using h
  | done _ hsaid =>
    refine ⟨fun done hdone => .inr ?_, fun why hwhy => nomatch hwhy⟩
    cases hdone
    exact reached_of_powered hsaid
  | failed _ hsaid =>
    refine ⟨fun done hdone => (nomatch hdone), fun why hwhy => ?_⟩
    cases hwhy
    exact failed_of_powered hsaid

/-- No call leaves the instance under way. -/
theorem Sound.isSettled (h : turn.Sound) (hbefore : turn.before.IsSettled) : turn.after.IsSettled := by
  cases houtcome : turn.outcome with
  | ok done =>
    rcases h.ok done houtcome with hidle | hreached
    · rwa [hidle.after]
    · rw [hreached.after]
      exact turn.call.action.isSettled_reached
  | error why => rwa [(h.error why houtcome).after]

end PowerTurn

/-! ## Many calls -/

/-- Calls one after another, each in the state that the one before it has left. -/
inductive PowerSession : PowerState → List PowerTurn → Prop
  | done (state : PowerState) : PowerSession state []
  | turn {turn : PowerTurn} {rest : List PowerTurn} (hsound : turn.Sound) (hrest : PowerSession turn.after rest) :
      PowerSession turn.before (turn :: rest)

theorem PowerSession.isSettled {state : PowerState} {turns : List PowerTurn} (h : PowerSession state turns)
    (hs : state.IsSettled) : ∀ turn ∈ turns, turn.after.IsSettled := by
  induction h with
  | done state => simp
  | turn hsound hrest ih =>
    have hafter := hsound.isSettled hs
    exact List.forall_mem_cons.2 ⟨hafter, ih hafter⟩

namespace Hypervisor

variable (h : Hypervisor σ) (interval : Duration)

/-- Power calls one after another: what comes of each of them, and the state after it. -/
def powerAll : List PowerCall → PowerState → Steps (World σ) Failure (List (Except Failure Bool × PowerState))
  | [], _ => pure []
  | c :: rest, state => do
    let (outcome, after) ← h.power c.id interval c.timeout c.action state
    let later ← powerAll rest after
    pure ((outcome, after) :: later)

open Steps

theorem transcribes_powerAll (calls : List PowerCall) (state : PowerState) :
    Transcribes (h.transcribed.powerAll interval calls state) (h.powerAll interval calls state) := by
  induction calls generalizing state with
  | nil => exact .pure _
  | cons c rest ih =>
    exact (h.transcribes_power _ _ _ _ _).bind fun _ => (ih _).bind fun _ => .pure _

theorem says_powerAll {waits : List Duration} {calls : List PowerCall} (hwaits : ∀ c ∈ calls, c.timeout ∈ waits)
    (state : PowerState) :
    (h.transcribed.powerAll interval calls state).Says waits fun result said =>
      ∃ turns : List PowerTurn, turns.map (·.call) = calls ∧ turns.flatMap (·.said) = said ∧
        result = .ok (turns.map fun turn => (turn.outcome, turn.after)) ∧ PowerSession state turns := by
  -- The turn of a call stands before the session that the other calls make from the state after it.
  induction calls generalizing state with
  | nil => exact .pure ⟨[], rfl, rfl, rfl, .done state⟩
  | cons c rest ih =>
    rw [List.forall_mem_cons] at hwaits
    refine (h.says_power c.id interval c.action state hwaits.1).bind (fun why said hsaid => ?_)
      fun reply said hsaid => ?_
    · obtain ⟨_, _, hresult, -⟩ := hsaid
      cases hresult
    · obtain ⟨outcome, after, hresult, hhandled⟩ := hsaid
      cases hresult
      refine (ih hwaits.2 after).bind (fun why more hmore => ?_) fun later more hmore => ?_
      · obtain ⟨_, -, -, hresult, -⟩ := hmore
        cases hresult
      · obtain ⟨turns, rfl, rfl, hresult, hsession⟩ := hmore
        cases hresult
        exact .pure ⟨⟨c, state, said, outcome, after⟩ :: turns, rfl, by simp, rfl,
          .turn (PowerTurn.sound_of_handled hhandled) hsession⟩

/-- Whatever the hypervisor answers, a sequence of power calls from a state in which nothing is under way leaves
such a state after each call, and each call ends as what was said for it tells. Only a reading that is never
answered stops the sequence, or a panic: of a call, or because the clock cannot tell when the time for one is
over. The calls before it are a sequence of their own. -/
theorem powerAll_settled (calls : List PowerCall) {state : PowerState} (hs : state.IsSettled) (w : World σ)
    (t : Nat) :
    Tells (h.transcribed.powerAll interval calls state) (h.powerAll interval calls state)
      (calls.map (·.timeout)) w t fun result said => ∃ turns : List PowerTurn, turns.map (·.call) = calls ∧
        turns.flatMap (·.said) = said ∧ result = .ok (turns.map fun turn => (turn.outcome, turn.after)) ∧
        PowerSession state turns ∧ ∀ turn ∈ turns, turn.after.IsSettled := by
  have hwaits : ∀ c ∈ calls, c.timeout ∈ calls.map (·.timeout) := fun _ hc => List.mem_map_of_mem hc
  refine (h.transcribes_powerAll interval calls state).tells ((h.says_powerAll interval hwaits state).imp ?_) w t
  rintro result said ⟨turns, hcalls, hsaid, hresult, hsession⟩
  exact ⟨turns, hcalls, hsaid, hresult, hsession, hsession.isSettled hs⟩

/-- A hypervisor that does what it is asked for and reads statuses from a script. -/
def scripted : Hypervisor (List (Except Failure Status))
  | .status _, script =>
    ⟨script.head?.elim .silent fun answer => .answered 0 answer script.tail, fun _ => script⟩
  | .start .., script | .shutdown .., script | .stop .., script | .reboot .., script =>
    ⟨.answered 0 (.ok ()) script, fun _ => script⟩
  | _, script => ⟨.silent, fun _ => script⟩

/-- A machine is started twice, then restarted and stopped. -/
def eventfulCalls : List PowerCall :=
  [.start, .start, .reboot, .stop].map (⟨⟨"pve1", 100, .vm⟩, 9, ·⟩)

/-- The first failure may pass, the other one not. -/
def eventfulScript : List (Except Failure Status) :=
  [.error (.transient ""), .ok ⟨.running, none⟩, .error (.api ""), .ok ⟨.stopped, none⟩]

/-- The second start has nothing to do, and the restart fails. -/
theorem powerAll_settled_scripted : PowerState.stopped.IsSettled ∧ ∃ turns : List PowerTurn,
    turns.map (·.call) = eventfulCalls ∧ turns.map (·.after) = [.running, .running, .running, .stopped] ∧
      (turns.flatMap (·.said)).length = 7 ∧ PowerSession .stopped turns := by
  have hs : PowerState.stopped.IsSettled := .inr rfl
  obtain ⟨turns, hcalls, hsaid, hresult, hsession, -⟩ :=
    (powerAll_settled scripted 1 eventfulCalls hs ⟨eventfulScript, []⟩ 0).ending
  have hafter := congrArg (List.map Prod.snd) (Except.ok.inj hresult)
  rw [List.map_map] at hafter
  exact ⟨hs, turns, hcalls, hafter.symm, hsaid ▸ rfl, hsession⟩

end Hypervisor

end Steward
