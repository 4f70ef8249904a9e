/-
Power transitions. An action is a call and a wait for the state it leads to, both within one deadline;
an action that is not needed makes no call. When an action fails, the state counts as it was before.
-/
import Steward.Poll

namespace Steward

inductive PowerState
  | stopped | starting | running | stopping
  deriving DecidableEq, Repr

namespace PowerState

def name : PowerState → String
  | stopped => "stopped"
  | starting => "starting"
  | running => "running"
  | stopping => "stopping"

def ofStatus (s : Status) : PowerState := if s.isRunning then running else stopped

end PowerState

inductive PowerAction
  | start
  /-- Orderly, and a hard stop when that takes too long. -/
  | shutdown
  | stop
  | reboot
  deriving DecidableEq, Repr

/-- How long a shutdown may take by itself: a quarter of the time, but no more than thirty seconds, is
kept for a hard stop. -/
def gracefulTime (deadline : Duration) : Duration := deadline - min (Duration.seconds 30) (deadline / 4)

namespace PowerAction

/-- The state that an action leads to. -/
def target : PowerAction → RunState
  | start | reboot => .running
  | shutdown | stop => .stopped

def reached (a : PowerAction) : PowerState :=
  match a.target with
  | .running => .running
  | .stopped => .stopped

/-- Whether an action has anything to do: only what runs is restarted. -/
def isNeeded : PowerAction → PowerState → Bool
  | reboot, s => s == .running
  | a, s => s != a.reached

/-- The state while an action is under way. -/
def pending (a : PowerAction) (s : PowerState) : PowerState :=
  if a.isNeeded s then
    match a with
    | start => .starting
    | shutdown | stop => .stopping
    | reboot => s
  else s

def call (a : PowerAction) (id : Identity) (timeout : Duration) : Call :=
  match a with
  | start => .start id timeout
  | shutdown => .shutdown id true (gracefulTime timeout)
  | stop => .stop id timeout
  | reboot => .reboot id timeout

end PowerAction

namespace Hypervisor

variable {σ : Type} (h : Hypervisor σ)

/-- The call of an action and the wait for its state, within `timeout`. -/
def settle (id : Identity) (interval timeout : Duration) (action : PowerAction) :
    Steps (World σ) Failure Unit := do
  let started ← Steps.now
  let _ ← h.callWithin (action.target.name ++ " on " ++ id.toText) timeout (action.call id timeout)
  let now ← Steps.now
  h.waitFor id (.state action.target) ⟨interval, timeout - (now - started)⟩

/-- An action on an instance that is in the state `state`: whether it was done and the state after it. -/
def power (id : Identity) (interval timeout : Duration) (action : PowerAction) (state : PowerState) :
    Steps (World σ) Failure (Except Failure Bool × PowerState) := do
  if action.isNeeded state then
    match ← (h.settle id interval timeout action).attempt with
    | .ok () => pure (.ok true, action.reached)
    | .error failure => pure (.error failure, state)
  else pure (.ok (action != .reboot), state)

end Hypervisor

end Steward
