/-
Hypervisors in memory in the data format: their machines, and how calls on them go.
-/
import Steward.Failure.Json
import Steward.Instance.Json
import Steward.Lab

namespace Steward

open Json

def natural64? (j : Json) : Option Nat := j.uint64?.map (·.toNat)

/-- A number of milliseconds. -/
def Duration.ofMilliseconds? (j : Json) : Option Duration := (natural64? j).map Duration.milliseconds

namespace Behaviour

def ofJson? : Json → Option Behaviour
  | .string "hang" => some .hang
  | .object r => do
    let delay ← optional? r "delay_ms" Duration.ofMilliseconds?
    some (.proceed (delay.getD 0) (← optional? r "error" Failure.ofJson?))
  | _ => none

def listOfJson? : Json → Option (List Behaviour) := list? ofJson?

end Behaviour

namespace Machine

def ofJson? (j : Json) : Option Machine := do
  let r ← j.members?
  some
    { node := (← optional? r "node" text?).getD ""
      kind := (← optional? r "kind" Kind.ofJson?).getD .vm
      config := (← optional? r "config" Remote.ofJson?).getD .empty
      running := (← optional? r "running" flag?).getD false
      lock := ← optional? r "lock" text?
      lockPolls := (← optional? r "lock_polls" natural64?).getD 0
      pending := none }

def toJson (m : Machine) : Json :=
  .object [("node", .string m.node), ("kind", .string m.kind.name), ("config", .object m.config.entries),
    ("running", .bool m.running), ("lock", ofOption .string m.lock)]

end Machine

namespace Lab

def empty : Lab := ⟨.empty, .empty, 0, 0, 0⟩

def machinesOfJson? (j : Json) : Option (Dict Machine) := do
  let r ← j.members?
  let entries ← r.mapM fun (key, value) => do
    let id ← Text.uint32? key
    some (idKey id, ← Machine.ofJson? value)
  some (Dict.ofList entries)

def ofJson? (j : Json) : Option Lab := do
  let r ← j.members?
  some
    { machines := (← optional? r "instances" machinesOfJson?).getD .empty
      script := (← optional? r "script" (Dict.ofJson? Behaviour.listOfJson?)).getD .empty
      lastId := (← optional? r "next_id" uint32?).getD 0
      lag := (← optional? r "lag" natural64?).getD 0
      lockPolls := (← optional? r "lock_polls" natural64?).getD 0 }

def machinesJson (lab : Lab) : Json := .object (lab.machines.map Machine.toJson).entries

end Lab

end Steward
