/-
Disks compared slot by slot. Disks grow and move and change their options; they are never shrunk or
deleted, and only volumes of the instance itself are resized or moved. What is asked for beyond that is
a failure, and only the change that it concerns is left out.
-/
import Steward.Disk.Drive
import Steward.Dict
import Steward.Failure
import Steward.Intent

namespace Steward

structure DiskPlan where
  /-- New disks and changed options. -/
  updates : List Intent
  moves : List Intent
  resizes : List Intent
  rebootRequired : Bool
  failures : List Failure

namespace DiskPlan

def empty : DiskPlan := ⟨[], [], [], false, []⟩

def isEmpty (p : DiskPlan) : Bool := p.updates.isEmpty && p.moves.isEmpty && p.resizes.isEmpty

def append (p q : DiskPlan) : DiskPlan where
  updates := p.updates ++ q.updates
  moves := p.moves ++ q.moves
  resizes := p.resizes ++ q.resizes
  rebootRequired := p.rebootRequired || q.rebootRequired
  failures := p.failures ++ q.failures

instance : Append DiskPlan := ⟨append⟩

end DiskPlan

namespace Plan

variable (id : UInt32)

def diskField (slot : String) : String := "disks." ++ slot

def gibText (n : UInt64) : String := Text.decimal n.toNat ++ "G"

/-- A disk that is there and not declared. -/
def undeclaredFailure (slot : String) (found : Disk) : Failure :=
  .unsupported ("disk " ++ slot ++ " (" ++ found.volume ++ ") is not in the desired configuration; " ++
    "disk deletion must be performed explicitly outside this flow")

/-- A disk that is declared and not there. -/
def createDisk (slot : String) (want : Disk) : DiskPlan :=
  { DiskPlan.empty with updates := [.update (diskField slot) slot want.toText .create], rebootRequired := true }

/-- A change of size: data disks of the instance itself grow. -/
def resizeDisk (slot : String) (want found : Disk) : DiskPlan :=
  if want.sizeGib < found.sizeGib then
    { DiskPlan.empty with
      failures := [.unsupported ("shrinking disk " ++ slot ++ " from " ++ gibText found.sizeGib ++ " to " ++
        gibText want.sizeGib ++ " is not supported")] }
  else if want.sizeGib = found.sizeGib then .empty
  else if want.diskClass ≠ .data then
    { DiskPlan.empty with failures := [.unsupported ("resizing " ++ slot ++ " is not supported")] }
  else if found.isOwnedBy id then
    { DiskPlan.empty with resizes := [⟨.resizeDisk slot want.sizeGib, .diskGrowth, .nothing⟩] }
  else { DiskPlan.empty with failures := [.ownership "resize" found.volume id] }

/-- A change of store: disks of the instance itself move. -/
def moveDisk (slot : String) (want found : Disk) : DiskPlan :=
  if want.datastore = found.datastore then .empty
  else if found.isOwnedBy id then
    { DiskPlan.empty with moves := [⟨.moveDisk slot want.datastore true, .diskMigration, .nothing⟩] }
  else { DiskPlan.empty with failures := [.ownership "move" found.volume id] }

/-- A change of options: the volume that is there is written again with the declared ones. -/
def retuneDisk (slot : String) (want found : Disk) : DiskPlan :=
  if want.diskClass = .data ∧ want.options ≠ found.options then
    { DiskPlan.empty with
      updates := [.update (diskField slot) slot { found with options := want.options }.toText .drift]
      rebootRequired := true }
  else .empty

/-- What a declared disk leads to, from what its slot holds. -/
def changeDisk (slot : String) (want : Disk) : Option Disk → DiskPlan
  | none => createDisk slot want
  | some found => resizeDisk id slot want found ++ moveDisk id slot want found ++ retuneDisk slot want found

def undeclaredDisks (desired observed : Dict Disk) : List Failure :=
  (observed.entries.filter fun (slot, _) => !desired.contains slot).map fun (slot, found) =>
    undeclaredFailure slot found

/-- What the declared disks of the instance `id` lead to. Where none is declared, disks are let alone. -/
def planDisks (desired observed : Dict Disk) : DiskPlan :=
  if desired.isEmpty then .empty
  else
    (desired.entries.map fun (slot, want) => changeDisk id slot want (observed.get? slot)).foldl (· ++ ·)
      { DiskPlan.empty with failures := undeclaredDisks desired observed }

end Plan

end Steward
