/-
Drive parameters: what is in a slot of an instance, as a property string whose head is the volume.
-/
import Steward.Disk
import Steward.Disk.Size
import Steward.PropertyString

namespace Steward

/-- What a slot holds: a disk, or a medium in a drive for such. -/
structure Drive where
  volume : String
  media : Option String
  disk : Disk
  deriving DecidableEq, Repr

namespace Drive

def isCdrom (d : Drive) : Bool := d.media == some "cdrom"

/-- A limit is written as any number and counts in whole units. -/
def limit? (p : PropertyString) (key : String) : Option UInt32 :=
  (p.get? key).bind fun text => (Binary64.ofText? text).map fun x => UInt32.ofNat (x.truncate (2 ^ 32 - 1))

def speedLimits (p : PropertyString) : SpeedLimits where
  read := limit? p "mbps_rd"
  write := limit? p "mbps_wr"
  readBurst := limit? p "mbps_rd_max"
  writeBurst := limit? p "mbps_wr_max"
  readOps := limit? p "iops_rd"
  writeOps := limit? p "iops_wr"

def options (p : PropertyString) : DiskOptions where
  cache := p.get? "cache"
  discard := p.get? "discard"
  ssd := (p.get? "ssd").any isTrueWord
  iothread := (p.get? "iothread").any isTrueWord
  backup := (p.get? "backup").all isTrueWord
  speed := speedLimits p

/-- The size of a drive in GiB; none is said of media. -/
def sizeGib (p : PropertyString) : Except Fault UInt64 :=
  match p.get? "size" with
  | none => .ok 0
  | some text =>
    match diskBytes? text with
    | some bytes => .ok (gibOfBytes bytes)
    | none => .error (.malformed "size" text .size)

/-- The store and the path of a volume. -/
def place (volume : String) : String × Option String :=
  match Text.cut ':' volume with
  | some (store, path) => (store, some path)
  | none => (volume, none)

/-- What the text of a slot says. The volume is the value of `file`, or else the head. -/
def ofText (interface text : String) : Except Fault Drive :=
  let p := PropertyString.ofText text
  match p.get? "file" <|> p.head with
  | none => .error (.malformed interface text .volume)
  | some volume =>
    (sizeGib p).map fun size =>
      { volume := volume
        media := p.get? "media"
        disk :=
          { interface := interface
            diskClass := DiskClass.ofSlot interface
            datastore := (place volume).1
            path := (place volume).2
            sizeGib := size
            format := p.get? "format"
            source := none
            options := options p } }

end Drive

namespace Disk

open PropertyString (optional flag)

/-- The head of a drive's text: the volume, or a request to allocate one. -/
def head (d : Disk) : String :=
  match d.path, d.source with
  | none, some _ => d.datastore ++ ":0"
  | _, _ => d.volume

/-- A volume is imported only where none has been allocated. -/
def importPair (d : Disk) : List (String × String) :=
  match d.path with
  | some _ => []
  | none => optional "import-from" d.source

def number (n : Option UInt32) : Option String := n.map fun n => Text.decimal n.toNat

def optionPairs (o : DiskOptions) : List (String × String) :=
  optional "cache" o.cache ++ optional "discard" o.discard ++ flag "ssd" o.ssd ++
    flag "iothread" o.iothread ++ (if o.backup then [] else [("backup", "0")]) ++
    optional "mbps_rd" (number o.speed.read) ++ optional "mbps_wr" (number o.speed.write) ++
    optional "mbps_rd_max" (number o.speed.readBurst) ++ optional "mbps_wr_max" (number o.speed.writeBurst) ++
    optional "iops_rd" (number o.speed.readOps) ++ optional "iops_wr" (number o.speed.writeOps)

def toProperties (d : Disk) : PropertyString where
  head := some d.head
  pairs := d.importPair ++ optional "format" d.format ++
    (if d.diskClass = .data then optionPairs d.options else [])

/-- The text of a drive that holds the disk. Only data disks have options. -/
def toText (d : Disk) : String := d.toProperties.toText

end Disk

end Steward
