/-
Identities and states of instances in the data format.
-/
import Steward.Document.Reader
import Steward.Remote

namespace Steward

open Json

/-- An identity; an instance of no particular kind is a virtual machine. -/
def Identity.ofJson? (j : Json) : Option Identity := do
  let r ← record? ["node", "vm_id", "kind"] j
  some
    { node := ← required? r "node" text?
      id := ← required? r "vm_id" uint32?
      kind := ← defaulted? r "kind" Kind.ofJson? .vm }

def Remote.ofJson? : Json → Option Remote := Dict.ofJson? some

def RunState.ofJson? : Json → Option RunState
  | .string "running" => some .running
  | .string "stopped" => some .stopped
  | _ => none

/-- A status as the hypervisor reports it. -/
def Status.ofJson? (j : Json) : Option Status := do
  let r ← record? ["status", "lock"] j
  some { state := ← required? r "status" RunState.ofJson?, lock := ← optional? r "lock" text? }

def Status.toJson (s : Status) : Json :=
  .object [("status", .string s.state.name), ("lock", ofOption .string s.lock)]

end Steward
