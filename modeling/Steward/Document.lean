/-
The document in which a user declares an instance: what is written and what is left out.
-/
import Steward.Config

namespace Steward

namespace Document

structure CloneBlock where
  id : UInt32
  node : Option String := none
  datastore : Option String := none
  full : Option Bool := none
  retries : Option UInt32 := none
  deriving DecidableEq, Repr

structure SystemBlock where
  osType : Option String := none
  template : Option String := none
  deriving DecidableEq, Repr

structure CpuBlock where
  architecture : Option String := none
  cores : Option UInt32 := none
  sockets : Option UInt32 := none
  units : Option UInt32 := none
  flags : Option (List String) := none
  emulation : Option String := none
  hotplugged : Option UInt32 := none
  limit : Option UInt32 := none
  numa : Option Bool := none
  deriving DecidableEq, Repr

structure MemoryBlock where
  dedicated : Option UInt32 := none
  floating : Option UInt32 := none
  shared : Option UInt32 := none
  deriving DecidableEq, Repr

structure AgentBlock where
  enabled : Option Bool := none
  trim : Option Bool := none
  channel : Option String := none
  deriving DecidableEq, Repr

structure DiskBlock where
  interface : String := ""
  datastore : Option String := none
  sizeGib : Option UInt64 := none
  format : Option String := none
  source : Option String := none
  cache : Option String := none
  discard : Option String := none
  ssd : Option Bool := none
  iothread : Option Bool := none
  backup : Option Bool := none
  speed : Option SpeedLimits := none
  deriving DecidableEq, Repr

structure FirmwareBlock where
  datastore : Option String := none
  format : Option String := none
  deriving DecidableEq, Repr

structure KeyStoreBlock where
  datastore : Option String := none
  deriving DecidableEq, Repr

structure NicBlock where
  enabled : Option Bool := none
  bridge : Option String := none
  model : Option String := none
  mac : Option String := none
  vlan : Option UInt16 := none
  rate : Option Binary64 := none
  mtu : Option UInt16 := none
  firewall : Option Bool := none
  deriving DecidableEq, Repr

structure AddressBlock where
  address : Option String := none
  gateway : Option String := none
  deriving DecidableEq, Repr

structure IpBlock where
  ipv4 : Option AddressBlock := none
  ipv6 : Option AddressBlock := none
  deriving DecidableEq, Repr

structure InitBlock where
  datastore : Option String := none
  interface : Option String := none
  resolver : Option Resolver := none
  ipConfigs : List IpBlock := []
  account : Option Account := none
  deriving DecidableEq, Repr

end Document

open Document in
structure Document where
  node : String := ""
  id : Option UInt32 := none
  kind : Kind := .vm
  name : Option String := none
  description : Option String := none
  tags : Option (List String) := none
  pool : Option String := none
  started : Option Bool := none
  template : Option Bool := none
  onBoot : Option Bool := none
  bios : Option String := none
  machine : Option String := none
  keyboard : Option String := none
  scsiHardware : Option String := none
  acpi : Option Bool := none
  tablet : Option Bool := none
  protection : Option Bool := none
  bootOrder : Option (List String) := none
  clone : Option CloneBlock := none
  system : Option SystemBlock := none
  cpu : Option CpuBlock := none
  memory : Option MemoryBlock := none
  agent : Option AgentBlock := none
  startup : Option Startup := none
  disks : List DiskBlock := []
  firmware : Option FirmwareBlock := none
  keyStore : Option KeyStoreBlock := none
  nics : Option (List NicBlock) := none
  init : Option InitBlock := none
  deriving DecidableEq, Repr

end Steward
