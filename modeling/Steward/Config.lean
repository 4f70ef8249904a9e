/-
The configuration of an instance, as declared and as found: every value with its origin.
-/
import Steward.CloudInit
import Steward.Dict
import Steward.Disk
import Steward.Instance
import Steward.Nic
import Steward.Setting

namespace Steward

structure Cpu where
  architecture : Setting String
  cores : Setting UInt32
  sockets : Setting UInt32
  units : Setting UInt32
  flags : Setting (List String)
  emulation : Setting String
  hotplugged : Setting (Option UInt32)
  /-- Zero means no limit. -/
  limit : Setting UInt32
  numa : Setting Bool
  deriving DecidableEq, Repr

/-- How many processors can be plugged in; zero is the same as none said. -/
def Cpu.hotplugCount (c : Cpu) : Option UInt32 := c.hotplugged.value.filter (fun n => 0 < n)

/-- Sizes in MiB. -/
structure Memory where
  dedicated : Setting UInt32
  /-- Zero means that memory is not reclaimed. -/
  floating : Setting UInt32
  /-- Zero means that no memory is shared. -/
  shared : Setting UInt32
  deriving DecidableEq, Repr

structure Startup where
  order : Option UInt32
  upDelay : Option UInt32
  downDelay : Option UInt32
  deriving DecidableEq, Repr

def Startup.isEmpty (s : Startup) : Bool := s.order.isNone && s.upDelay.isNone && s.downDelay.isNone

structure Agent where
  enabled : Bool
  trim : Bool
  channel : String
  deriving DecidableEq, Repr

structure Config where
  name : Setting String
  description : Setting String
  tags : Setting NameSet
  cpu : Setting Cpu
  memory : Setting Memory
  /-- By slot. Where none is declared, disks are let alone. -/
  disks : Dict Disk
  nics : Setting (List Nic)
  /-- Where none is declared, first-boot settings are let alone. -/
  cloudInit : Option CloudInit
  startup : Setting (Option Startup)
  started : Setting Bool
  template : Setting Bool
  onBoot : Setting Bool
  bootOrder : Setting (List String)
  bios : Setting String
  machine : Setting String
  keyboard : Setting String
  osType : Setting String
  acpi : Setting Bool
  tablet : Setting Bool
  protection : Setting Bool
  scsiHardware : Setting String
  agent : Setting Agent
  deriving DecidableEq

end Steward
