/-
Waiting for an instance: its status is read at once and then at fixed intervals, for the last time when
the time is over. Failures that may pass do not end the wait, all others do. When the time is over must be
a moment that the clock can tell.
-/
import Steward.Hypervisor

namespace Steward

/-- What is waited for. -/
inductive Goal
  | state (target : RunState)
  /-- No task keeps the configuration locked. -/
  | unlocked
  deriving DecidableEq, Repr

namespace Goal

def isReached : Goal → Status → Bool
  | state target, s => s.state == target
  | unlocked, s => s.lock.isNone

def words : Goal → String
  | state target => "reach " ++ target.name
  | unlocked => "release its config lock"

end Goal

structure Polling where
  interval : Duration
  timeout : Duration
  deriving DecidableEq, Repr

/-- The time between two readings: where no interval is asked for, the clock goes on by its least step. -/
def Polling.pause (p : Polling) : Duration := max p.interval 1

/-- More readings than a wait has time for. -/
def Polling.maxReads (p : Polling) : Nat := p.timeout / p.pause + 2

def Failure.notReached (id : Identity) (goal : Goal) (timeout : Duration) : Failure :=
  .timeout (id.toText ++ " did not " ++ goal.words ++ " within " ++
    Text.decimal (Duration.wholeSeconds timeout) ++ "s")

namespace Hypervisor

variable {σ : Type} (h : Hypervisor σ)

/-- Whether the goal is reached, by one reading of the status. -/
def hasReached (id : Identity) (goal : Goal) : Steps (World σ) Failure Bool := do
  match ← (h.call (.status id)).attempt with
  | .ok status => pure (goal.isReached status)
  | .error failure => if failure.isTransient then pure false else Steps.throw failure

/-- Readings up to the moment `deadline`, at most so many. -/
def pollUntil (id : Identity) (goal : Goal) (polling : Polling) (deadline : Nat) :
    (reads : Nat) → Steps (World σ) Failure Unit
  | 0 => Steps.throw (.notReached id goal polling.timeout)
  | reads + 1 => do
    if ← h.hasReached id goal then pure ()
    else
      let now ← Steps.now
      if deadline ≤ now then Steps.throw (.notReached id goal polling.timeout)
      else
        Steps.sleep (min polling.pause (deadline - now))
        pollUntil id goal polling deadline reads

/-- Readings up to a moment, and a panic where there is none. -/
def pollUntil? (id : Identity) (goal : Goal) (polling : Polling) : Option Nat → Steps (World σ) Failure Unit
  | some deadline => h.pollUntil id goal polling deadline polling.maxReads
  | none => Steps.panic

def waitFor (id : Identity) (goal : Goal) (polling : Polling) : Steps (World σ) Failure Unit := do
  h.pollUntil? id goal polling (Clock.after? (← Steps.now) polling.timeout)

theorem waitFor_eq (id : Identity) (goal : Goal) (polling : Polling) (deadline : Option Nat) (w : World σ)
    (t : Nat) : h.waitFor id goal polling deadline w t =
      h.pollUntil? id goal polling (Clock.after? t polling.timeout) deadline w t := rfl

end Hypervisor

end Steward
