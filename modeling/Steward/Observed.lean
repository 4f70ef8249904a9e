/-
The instance that the hypervisor reports, in the form of a declared one. What is not reported is filled
in with what the hypervisor does then, and marked so.
-/
import Steward.Disk.Drive
import Steward.Nic.Property
import Steward.Parameter
import Steward.Remote

namespace Steward

structure Observed where
  identity : Identity
  config : Config
  status : Status
  /-- The slots that hold a drive of whatever kind. -/
  occupied : NameSet
  deriving DecidableEq

/-- The parameter of an instance's name. -/
def Kind.nameKey : Kind → String
  | .vm => "name"
  | .container => "hostname"

/-- The parameter of the memory that can be reclaimed, or of the swap space of a container. -/
def Kind.floatingKey : Kind → String
  | .vm => "balloon"
  | .container => "swap"

namespace Remote

/-- A value that the parameter's notation does not admit. -/
def decodeFailure (key : String) (fault : Fault) : Failure :=
  .api ("cannot decode remote `" ++ key ++ "`: " ++ fault.message)

def decoded {α : Type} (key : String) : Except Fault α → Except Failure α
  | .ok a => .ok a
  | .error fault => .error (decodeFailure key fault)

variable (remote : Remote)

/-- The processor parameter, its type and its flags. -/
def emulation? : Option (String × List String) := (remote.text? "cpu").map Cpu.emulationOfText

def cpuKeys : List String := ["arch", "cores", "sockets", "cpuunits", "cpu", "vcpus", "cpulimit", "numa"]

/-- A block is reported if any of its parameters is. -/
def blockOrigin (keys : List String) : Origin := if keys.any remote.contains then .explicit else .hypervisor

def cpu : Setting Cpu where
  value :=
    { architecture := .reported (remote.text? "arch") ""
      cores := .reported (remote.number? "cores") 1
      sockets := .reported (remote.number? "sockets") 1
      units := .reported (remote.number? "cpuunits") 1024
      flags := .reported (remote.emulation?.map (·.2)) []
      emulation := .reported (remote.emulation?.map (·.1)) "kvm64"
      hotplugged := .reported ((remote.number? "vcpus").map some) none
      limit := .reported (remote.number? "cpulimit") 0
      numa := .reported (remote.flag? "numa") false }
  origin := remote.blockOrigin cpuKeys

def memory (kind : Kind) : Setting Memory where
  value :=
    { dedicated := .reported (remote.number? "memory") 512
      floating := .reported (remote.number? kind.floatingKey) 0
      shared := .reported ((remote.text? "ivshmem").bind SharedMemory.ofText?) 0 }
  origin := remote.blockOrigin ["memory", kind.floatingKey, "ivshmem"]

/-- The drives in some slots, in that order. -/
def drivesIn : List String → Except Failure (List (String × Drive))
  | [] => .ok []
  | slot :: slots =>
    match remote.text? slot with
    | none => drivesIn slots
    | some text => do
      let drive ← decoded slot (Drive.ofText slot text)
      .ok ((slot, drive) :: (← drivesIn slots))

/-- How many slots of a numbered parameter are in use: up to the last one that is reported. -/
def slotCount (name : Nat → String) (limit : Nat) : Nat :=
  match (List.range limit).reverse.find? fun n => remote.contains (name n) with
  | some last => last + 1
  | none => 0

def resolver : Option Resolver :=
  let domain := remote.text? "searchdomain"
  let servers := remote.text? "nameserver"
  if domain.isSome || servers.isSome then some ⟨domain, (servers.map Text.words).getD []⟩ else none

/-- How many address parameters an instance has. -/
def maxIpConfigs : Nat := 32

def ipConfigs : List IpConfig :=
  (List.range (remote.slotCount IpConfig.slot maxIpConfigs)).map fun n =>
    ((remote.text? (IpConfig.slot n)).map IpConfig.ofText).getD .none

def account : Option Account :=
  let name := remote.text? "ciuser"
  let password := remote.text? "cipassword"
  let keys := remote.text? "sshkeys"
  if name.isSome || password.isSome || keys.isSome then
    some ⟨name, password, (keys.map Text.lines).getD []⟩
  else none

/-- The first-boot settings of a virtual machine with its generated drive in a slot. -/
def cloudInitAt (slot datastore : String) : CloudInit where
  datastore := datastore
  interface := some slot
  resolver := remote.resolver
  ipConfigs := remote.ipConfigs
  account := remote.account

/-- The first generated drive of the instance among its drives. -/
def cloudInitDrive? (id : UInt32) (drives : List (String × Drive)) : Option (String × Drive) :=
  drives.find? fun (_, drive) => drive.isCdrom && CloudInit.isVolumeOf id drive.volume

/-- The disks among some drives. -/
def disksAmong (drives : List (String × Drive)) : List (String × Disk) :=
  (drives.filter fun (_, drive) => !drive.isCdrom).map fun (slot, drive) => (slot, drive.disk)

/-- The devices in the first slots; a slot without a text is disabled. -/
def nicsFrom {α : Type} (read : String → Except Fault α) (absent : α) : List Nat → Except Failure (List α)
  | [] => .ok []
  | slot :: slots => do
    let nic ← match remote.text? (nicSlot slot) with
      | some text => decoded (nicSlot slot) (read text)
      | none => .ok absent
    .ok (nic :: (← nicsFrom read absent slots))

/-- The devices in all slots up to the last one that is reported. -/
def allNics {α : Type} (read : String → Except Fault α) (absent : α) : Except Failure (List α) :=
  remote.nicsFrom read absent (List.range (remote.slotCount nicSlot maxNics))

/-- A list of slots is reported if any slot is. -/
def slotsOrigin (count : Nat) : Origin := if count = 0 then .hypervisor else .explicit

/-- What differs between the kinds of instances: disks, first-boot settings, used slots and networks. -/
structure Devices where
  disks : Dict Disk
  cloudInit : Option CloudInit
  occupied : NameSet
  nics : Setting (List Nic)

def vmDevices (id : UInt32) : Except Failure Devices := do
  let drives ← remote.drivesIn driveSlots
  let firmware ← remote.drivesIn [firmwareSlot, keyStoreSlot]
  let nics ← remote.allNics Nic.ofText .disabled
  .ok
    { disks := .ofList (disksAmong drives ++ firmware.map fun (slot, drive) => (slot, drive.disk))
      cloudInit := (cloudInitDrive? id drives).map fun (slot, drive) =>
        remote.cloudInitAt slot drive.disk.datastore
      occupied := .ofList (drives.map (·.1))
      nics := ⟨nics, slotsOrigin nics.length⟩ }

def containerDevices : Except Failure Devices := do
  let nics ← remote.allNics Nic.ofContainerText (.disabled, .none)
  let root ← remote.drivesIn [rootSlot]
  .ok
    { disks := .ofList (root.map fun (slot, drive) => (slot, drive.disk))
      cloudInit := some ⟨"", none, remote.resolver, nics.map (·.2), none⟩
      occupied := .empty
      nics := ⟨nics.map (·.1), slotsOrigin nics.length⟩ }

def devices (identity : Identity) : Except Failure Devices :=
  match identity.kind with
  | .vm => remote.vmDevices identity.id
  | .container => remote.containerDevices

def configWith (kind : Kind) (status : Status) (d : Devices) : Config where
  name := .reported (remote.text? kind.nameKey) ""
  description := .reported ((remote.text? "description").map Text.withoutLineEnds) ""
  tags := .reported ((remote.text? "tags").map Tags.ofText) .empty
  cpu := remote.cpu
  memory := remote.memory kind
  disks := d.disks
  nics := d.nics
  cloudInit := d.cloudInit
  startup := .reported ((remote.text? "startup").map fun s => some (Startup.ofText s)) none
  started := .explicit status.isRunning
  template := .reported (remote.flag? "template") false
  onBoot := .reported (remote.flag? "onboot") false
  bootOrder := .reported ((remote.text? "boot").map BootOrder.ofText) []
  bios := .reported (remote.text? "bios") "seabios"
  machine := .reported (remote.text? "machine") ""
  keyboard := .reported (remote.text? "keyboard") ""
  osType := .reported (remote.text? "ostype") "other"
  acpi := .reported (remote.flag? "acpi") true
  tablet := .reported (remote.flag? "tablet") true
  protection := .reported (remote.flag? "protection") false
  scsiHardware := .reported (remote.text? "scsihw") "lsi"
  agent := .reported ((remote.text? "agent").map Agent.ofText) ⟨false, false, Agent.defaultChannel⟩

/-- The instance that a configuration and a status report. -/
def observe (identity : Identity) (status : Status) : Except Failure Observed := do
  let d ← remote.devices identity
  .ok ⟨identity, remote.configWith identity.kind status d, status, d.occupied⟩

end Remote

end Steward
