/-
What is declared where a document says nothing. These are not the hypervisor's own defaults.
-/
import Steward.Json.Fields

namespace Steward

structure Policy where
  cpuArchitecture : String := "x86_64"
  cpuCores : UInt32 := 1
  cpuSockets : UInt32 := 1
  cpuUnits : UInt32 := 1024
  cpuType : String := "qemu64"
  cpuLimit : UInt32 := 0
  cpuNuma : Bool := false
  memoryDedicated : UInt32 := 512
  memoryFloating : UInt32 := 0
  memoryShared : UInt32 := 0
  bios : String := "seabios"
  machine : String := ""
  keyboard : String := "en-us"
  osType : String := "other"
  acpi : Bool := true
  tablet : Bool := true
  protection : Bool := false
  scsiHardware : String := "virtio-scsi-pci"
  onBoot : Bool := true
  started : Bool := true
  template : Bool := false
  agentEnabled : Bool := false
  agentTrim : Bool := false
  agentChannel : String := "virtio"
  diskDatastore : String := "local-lvm"
  diskSizeGib : UInt64 := 8
  diskBackup : Bool := true
  firmwareDatastore : String := "local-lvm"
  bridge : String := "vmbr0"
  nicModel : String := "virtio"
  cloudInitDatastore : String := "local-lvm"
  cloneFull : Bool := true
  cloneRetries : UInt32 := 1
  deriving DecidableEq, Repr

namespace Policy

open Json

def fieldNames : List String :=
  ["cpu_architecture", "cpu_cores", "cpu_sockets", "cpu_units", "cpu_type", "cpu_limit", "cpu_numa",
    "memory_dedicated_mb", "memory_floating_mb", "memory_shared_mb", "bios", "machine", "keyboard_layout",
    "os_type", "acpi", "tablet_device", "protection", "scsi_hardware", "on_boot", "started", "template",
    "agent_enabled", "agent_trim", "agent_type", "disk_datastore_id", "disk_size_gib", "disk_backup",
    "efi_disk_datastore_id", "network_bridge", "network_model", "cloud_init_datastore_id", "clone_full",
    "clone_retries"]

/-- The policy that a record writes over the built-in one; texts are read by `text`. -/
def ofJson? (text : Json → Option String) (j : Json) : Option Policy := do
  let r ← record? fieldNames j
  let d : Policy := {}
  some
    { cpuArchitecture := ← defaulted? r "cpu_architecture" text d.cpuArchitecture
      cpuCores := ← defaulted? r "cpu_cores" uint32? d.cpuCores
      cpuSockets := ← defaulted? r "cpu_sockets" uint32? d.cpuSockets
      cpuUnits := ← defaulted? r "cpu_units" uint32? d.cpuUnits
      cpuType := ← defaulted? r "cpu_type" text d.cpuType
      cpuLimit := ← defaulted? r "cpu_limit" uint32? d.cpuLimit
      cpuNuma := ← defaulted? r "cpu_numa" flag? d.cpuNuma
      memoryDedicated := ← defaulted? r "memory_dedicated_mb" uint32? d.memoryDedicated
      memoryFloating := ← defaulted? r "memory_floating_mb" uint32? d.memoryFloating
      memoryShared := ← defaulted? r "memory_shared_mb" uint32? d.memoryShared
      bios := ← defaulted? r "bios" text d.bios
      machine := ← defaulted? r "machine" text d.machine
      keyboard := ← defaulted? r "keyboard_layout" text d.keyboard
      osType := ← defaulted? r "os_type" text d.osType
      acpi := ← defaulted? r "acpi" flag? d.acpi
      tablet := ← defaulted? r "tablet_device" flag? d.tablet
      protection := ← defaulted? r "protection" flag? d.protection
      scsiHardware := ← defaulted? r "scsi_hardware" text d.scsiHardware
      onBoot := ← defaulted? r "on_boot" flag? d.onBoot
      started := ← defaulted? r "started" flag? d.started
      template := ← defaulted? r "template" flag? d.template
      agentEnabled := ← defaulted? r "agent_enabled" flag? d.agentEnabled
      agentTrim := ← defaulted? r "agent_trim" flag? d.agentTrim
      agentChannel := ← defaulted? r "agent_type" text d.agentChannel
      diskDatastore := ← defaulted? r "disk_datastore_id" text d.diskDatastore
      diskSizeGib := ← defaulted? r "disk_size_gib" uint64? d.diskSizeGib
      diskBackup := ← defaulted? r "disk_backup" flag? d.diskBackup
      firmwareDatastore := ← defaulted? r "efi_disk_datastore_id" text d.firmwareDatastore
      bridge := ← defaulted? r "network_bridge" text d.bridge
      nicModel := ← defaulted? r "network_model" text d.nicModel
      cloudInitDatastore := ← defaulted? r "cloud_init_datastore_id" text d.cloudInitDatastore
      cloneFull := ← defaulted? r "clone_full" flag? d.cloneFull
      cloneRetries := ← defaulted? r "clone_retries" uint32? d.cloneRetries }

/-- The record that a policy writes. -/
def toJson (p : Policy) : Json :=
  let number (n : UInt32) : Json := .ofNat n.toNat
  .object
    [("cpu_architecture", .string p.cpuArchitecture), ("cpu_cores", number p.cpuCores),
      ("cpu_sockets", number p.cpuSockets), ("cpu_units", number p.cpuUnits), ("cpu_type", .string p.cpuType),
      ("cpu_limit", number p.cpuLimit), ("cpu_numa", .bool p.cpuNuma),
      ("memory_dedicated_mb", number p.memoryDedicated), ("memory_floating_mb", number p.memoryFloating),
      ("memory_shared_mb", number p.memoryShared), ("bios", .string p.bios), ("machine", .string p.machine),
      ("keyboard_layout", .string p.keyboard), ("os_type", .string p.osType), ("acpi", .bool p.acpi),
      ("tablet_device", .bool p.tablet), ("protection", .bool p.protection),
      ("scsi_hardware", .string p.scsiHardware), ("on_boot", .bool p.onBoot), ("started", .bool p.started),
      ("template", .bool p.template), ("agent_enabled", .bool p.agentEnabled),
      ("agent_trim", .bool p.agentTrim), ("agent_type", .string p.agentChannel),
      ("disk_datastore_id", .string p.diskDatastore), ("disk_size_gib", .number (.natural p.diskSizeGib)),
      ("disk_backup", .bool p.diskBackup), ("efi_disk_datastore_id", .string p.firmwareDatastore),
      ("network_bridge", .string p.bridge), ("network_model", .string p.nicModel),
      ("cloud_init_datastore_id", .string p.cloudInitDatastore), ("clone_full", .bool p.cloneFull),
      ("clone_retries", number p.cloneRetries)]

end Policy

end Steward
