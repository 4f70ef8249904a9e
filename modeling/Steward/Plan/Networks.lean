/-
Network slots compared one by one: each slot leads to one step at most. A list that the user did not
declare is let alone.
-/
import Steward.Intent
import Steward.Nic.Property
import Steward.Setting

namespace Steward.Plan

/-- What is particular to a kind of instance: when a slot is as wanted, and how a device is written. -/
structure SlotRules where
  satisfied : Nat → Nic → Nic → Bool
  text : Nat → Nic → String

/-- A virtual machine's slots are all there is to its devices. -/
def vmSlotRules : SlotRules where
  satisfied _ want found := want.satisfiedBy found
  text _ nic := nic.toText

/-- A container's slots also carry the addresses of the guest; where none are declared (`want` is
`none`), those that are there stay. -/
def containerSlotRules (want : Option (List IpConfig)) (found : List IpConfig) : SlotRules :=
  let addresses (slot : Nat) : IpConfig := ((want.getD found)[slot]?).getD .none
  { satisfied := fun slot nic seen => nic.satisfiedBy seen && addresses slot == (found[slot]?).getD .none
    text := fun slot nic => nic.toContainerText slot (some (addresses slot)) }

def nicField (slot : Nat) : String := "network_devices[" ++ Text.decimal slot ++ "]"

/-- The step that a declared slot leads to; `found` is what the slot holds, if it holds anything. A
device without an address keeps the one that it has. -/
def slotIntent? (rules : SlotRules) (slot : Nat) (want : Nic) (found : Option Nic) : Option Intent :=
  match want.enabled, found with
  | false, some _ => some (.delete (nicSlot slot) .disabled)
  | false, none => none
  | true, none => some (.update (nicField slot) (nicSlot slot) (rules.text slot want) .create)
  | true, some seen =>
    if rules.satisfied slot want seen then none
    else
      let updated := { want with mac := want.mac <|> seen.mac }
      some (.update (nicField slot) (nicSlot slot) (rules.text slot updated) .drift)

/-- The step that a slot beyond the declared ones leads to. -/
def pruneIntent? (slot : Nat) (found : Nic) : Option Intent :=
  if found.enabled then some (.delete (nicSlot slot) .prune) else none

def slotIntents (rules : SlotRules) (want found : List Nic) : List Intent :=
  (want.zipIdx.filterMap fun (nic, slot) => slotIntent? rules slot nic ((found[slot]?).filter Nic.enabled)) ++
    (found.zipIdx.drop want.length).filterMap fun (nic, slot) => pruneIntent? slot nic

/-- The steps for all slots, each of which owes a restart. -/
def nicIntents (rules : SlotRules) (desired observed : Setting (List Nic)) : List Intent :=
  if desired.isPolicy then [] else slotIntents rules desired.value observed.value

end Steward.Plan
