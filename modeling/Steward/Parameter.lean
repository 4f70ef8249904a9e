/-
The notations of single parameters of an instance: processor, start order, guest agent, boot order,
tags, shared memory.
-/
import Steward.Config
import Steward.PropertyString

namespace Steward

open PropertyString (optional)

def optionalNumber (key : String) (n : Option UInt32) : List (String × String) :=
  optional key (n.map fun n => Text.decimal n.toNat)

/-- The parts of a text between semicolons, without the empty ones. -/
def semicolonParts (s : String) : List String :=
  (Text.pieces (· == ';') s).filter (fun part => !part.isEmpty)

namespace Cpu

/-- The emulated processor and its flags: the type is the value of `cputype`, or else the head. -/
def emulationOfText (s : String) : String × List String :=
  let p := PropertyString.ofText s
  ((p.get? "cputype" <|> p.head).getD "", ((p.get? "flags").map semicolonParts).getD [])

def emulationText (emulation : String) (flags : List String) : String :=
  PropertyString.toText ⟨some emulation, if flags.isEmpty then [] else [("flags", Text.join ";" flags)]⟩

end Cpu

namespace Startup

/-- A number that is none counts as not said. -/
def ofText (s : String) : Startup :=
  let p := PropertyString.ofText s
  ⟨(p.get? "order").bind Text.uint32?, (p.get? "up").bind Text.uint32?, (p.get? "down").bind Text.uint32?⟩

def toText (s : Startup) : String :=
  PropertyString.toText
    ⟨none, optionalNumber "order" s.order ++ optionalNumber "up" s.upDelay ++ optionalNumber "down" s.downDelay⟩

end Startup

namespace Agent

def defaultChannel : String := "virtio"

/-- The agent is on if the value of `enabled`, or else the head, means yes. -/
def ofText (s : String) : Agent :=
  let p := PropertyString.ofText s
  { enabled := (p.get? "enabled" <|> p.head).any isTrueWord
    trim := (p.get? "fstrim_cloned_disks").any isTrueWord
    channel := (p.get? "type").getD defaultChannel }

def toText (a : Agent) : String :=
  PropertyString.toText
    ⟨none, [("enabled", flagDigit a.enabled), ("fstrim_cloned_disks", flagDigit a.trim), ("type", a.channel)]⟩

end Agent

namespace BootOrder

/-- The devices to boot from; an order by letters says none. -/
def ofText (s : String) : List String := (((PropertyString.ofText s).get? "order").map semicolonParts).getD []

def toText (devices : List String) : String := "order=" ++ Text.join ";" devices

end BootOrder

namespace Tags

def ofText (s : String) : NameSet :=
  NameSet.ofList (Text.fields (fun c => c == ';' || c == ',' || c == ' ') s)

def toText (tags : NameSet) : String := Text.join ";" tags.keys

end Tags

namespace SharedMemory

/-- The size of the memory in MiB. -/
def ofText? (s : String) : Option UInt32 := ((PropertyString.ofText s).get? "size").bind Text.uint32?

/-- The name of the memory tells whose it is. -/
def toText (sizeMb : UInt32) (id : UInt32) : String :=
  "size=" ++ Text.decimal sizeMb.toNat ++ ",name=pveflow-" ++ Text.decimal id.toNat

end SharedMemory

end Steward
