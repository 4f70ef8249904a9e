/-
The configuration of an instance as the hypervisor reports it: parameters by name, with values whose
representation varies between versions (`4` and `"4"`, `true` and `1`). The three readers below see
through that.
-/
import Steward.Dict
import Steward.Failure
import Steward.Json
import Steward.PropertyString

namespace Steward

abbrev Remote := Dict Json

namespace Remote

/-- A value as text. -/
def textOf? : Json → Option String
  | .string s => some s
  | .number n => some n.toText
  | .bool b => some (flagDigit b)
  | _ => none

/-- A value as a number of 32 bits: what is written with a fraction counts without it, what is negative
as zero. -/
def numberOf? : Json → Option UInt32
  | .number (.natural n) => if n.toNat < UInt32.size then some n.toUInt32 else none
  | .number n =>
    let k := n.toBinary64.truncate (2 ^ 64 - 1)
    if k < UInt32.size then some (UInt32.ofNat k) else none
  | .string s => Text.uint32? (Text.trimmed s)
  | _ => none

/-- A value as a flag. -/
def flagOf? : Json → Option Bool
  | .bool b => some b
  | .number (.natural n) => some (n != 0)
  | .string s => some (isTrueWord s)
  | _ => none

variable (remote : Remote) (key : String)

def text? : Option String := (Dict.get? remote key).bind textOf?

def number? : Option UInt32 := (Dict.get? remote key).bind numberOf?

def flag? : Option Bool := (Dict.get? remote key).bind flagOf?

end Remote

inductive RunState
  | running
  | stopped
  deriving DecidableEq, Repr

def RunState.name : RunState → String
  | running => "running"
  | stopped => "stopped"

/-- Whether an instance runs, and which task keeps its configuration locked, if any. -/
structure Status where
  state : RunState
  lock : Option String
  deriving DecidableEq, Repr

def Status.isRunning (s : Status) : Bool := s.state == .running

end Steward
