/-
Names of drive slots: a bus and a number, `scsi1`. Leading zeros are accepted, numbers beyond the last
slot of the bus are not.
-/
import Steward.Fault
import Steward.Text.Split

namespace Steward

inductive Bus
  | ide | sata | scsi | virtio
  deriving DecidableEq, Repr

namespace Bus

def all : List Bus := [ide, sata, scsi, virtio]

def name : Bus → String
  | ide => "ide"
  | sata => "sata"
  | scsi => "scsi"
  | virtio => "virtio"

/-- The number of the last slot. -/
def lastSlot : Bus → Nat
  | ide => 3
  | sata => 5
  | scsi => 30
  | virtio => 15

def slotName (bus : Bus) (slot : Nat) : String := bus.name ++ Text.decimal slot

/-- The names of all slots, in the order of their numbers. -/
def slots (bus : Bus) : List String := (List.range (bus.lastSlot + 1)).map bus.slotName

end Bus

/-- The slots in which a virtual machine's drives are looked for, in this order. -/
def driveSlots : List String := Bus.all.flatMap Bus.slots

/-- Where a virtual machine keeps its firmware variables, its key store, and a container its root. -/
def firmwareSlot : String := "efidisk0"
def keyStoreSlot : String := "tpmstate0"
def rootSlot : String := "rootfs"

/-- The number that a bus's name is followed by. -/
def Bus.slotOf? (bus : Bus) (name : List Char) : Option Nat :=
  if bus.name.toList.isPrefixOf name then Text.digits? (name.drop bus.name.length) else none

/-- The bus and the number of a slot's name. -/
def parseInterface? (name : String) : Option (Bus × Nat) :=
  Bus.all.findSome? fun bus =>
    (bus.slotOf? name.toList).bind fun slot => if slot ≤ bus.lastSlot then some (bus, slot) else none

def parseInterface (name : String) : Except Fault (Bus × Nat) :=
  match parseInterface? name with
  | some slot => .ok slot
  | none => .error (.unknownInterface name)

end Steward
