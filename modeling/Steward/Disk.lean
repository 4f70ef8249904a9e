/-
Disks of an instance, as declared and as found: a volume in a store, its size, and how the drive
behaves. A volume that has not been allocated has no path yet.
-/
import Steward.Interface

namespace Steward

/-- What a disk holds: data, firmware variables, or the state of a key store. -/
inductive DiskClass
  | data | firmware | keyStore
  deriving DecidableEq, Repr

/-- The class of a disk by the name of its slot. -/
def DiskClass.ofSlot (slot : String) : DiskClass :=
  if slot = firmwareSlot then firmware else if slot = keyStoreSlot then keyStore else data

/-- Limits of throughput, in MB and in operations per second. -/
structure SpeedLimits where
  read : Option UInt32
  write : Option UInt32
  readBurst : Option UInt32
  writeBurst : Option UInt32
  readOps : Option UInt32
  writeOps : Option UInt32
  deriving DecidableEq, Repr

def SpeedLimits.none : SpeedLimits := ⟨.none, .none, .none, .none, .none, .none⟩

/-- How a drive behaves, whatever volume it holds. -/
structure DiskOptions where
  cache : Option String
  discard : Option String
  ssd : Bool
  iothread : Bool
  backup : Bool
  speed : SpeedLimits
  deriving DecidableEq, Repr

structure Disk where
  interface : String
  diskClass : DiskClass
  datastore : String
  path : Option String
  sizeGib : UInt64
  format : Option String
  /-- The volume to import when the disk is allocated. -/
  source : Option String
  options : DiskOptions
  deriving DecidableEq, Repr

namespace Disk

/-- A disk without options to speak of. -/
def plain (interface : String) (diskClass : DiskClass) (datastore : String) (sizeGib : UInt64)
    (format : Option String) (backup : Bool) : Disk where
  interface := interface
  diskClass := diskClass
  datastore := datastore
  path := none
  sizeGib := sizeGib
  format := format
  source := none
  options := ⟨none, none, false, false, backup, .none⟩

/-- The volume as the hypervisor writes it, or the request to allocate one of that size. -/
def volume (d : Disk) : String :=
  match d.path with
  | some path => d.datastore ++ ":" ++ path
  | none => d.datastore ++ ":" ++ Text.decimal d.sizeGib.toNat

/-- Whether the path of a volume says that it belongs to the instance `id`: stores name volumes after
their owner, some inside a directory of the owner. -/
def pathOwnedBy (path : String) (id : UInt32) : Bool :=
  let owner := "vm-" ++ Text.decimal id.toNat ++ "-"
  Text.startsWith path owner || Text.startsWith path (Text.decimal id.toNat ++ "/" ++ owner)

def isOwnedBy (d : Disk) (id : UInt32) : Bool := d.path.any fun path => pathOwnedBy path id

def bus? (d : Disk) : Option Bus := (parseInterface? d.interface).map (·.1)

end Disk

end Steward
