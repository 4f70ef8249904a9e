/-
Reading a document: blocks with fields of known names only, except for the limits of a disk, where
others are passed over.
-/
import Steward.Document
import Steward.Json.Fields

namespace Steward

open Json

/-- How the texts of a document are written. -/
abbrev TextReader := Json → Option String

def Kind.ofJson? : Json → Option Kind
  | .string "vm" => some .vm
  | .string "container" => some .container
  | _ => none

def SpeedLimits.ofJson? (j : Json) : Option SpeedLimits := do
  let r ← record? ["read_mbps", "write_mbps", "read_burstable_mbps", "write_burstable_mbps", "iops_read",
    "iops_write"] j
  some
    { read := ← optional? r "read_mbps" uint32?
      write := ← optional? r "write_mbps" uint32?
      readBurst := ← optional? r "read_burstable_mbps" uint32?
      writeBurst := ← optional? r "write_burstable_mbps" uint32?
      readOps := ← optional? r "iops_read" uint32?
      writeOps := ← optional? r "iops_write" uint32? }

namespace Document

variable (text : TextReader)

def CloneBlock.ofJson? (j : Json) : Option CloneBlock := do
  let r ← completeClosedRecord? ["vm_id", "node_name", "datastore_id", "full", "retries"] j
  some
    { id := ← required? r "vm_id" uint32?
      node := ← optional? r "node_name" text
      datastore := ← optional? r "datastore_id" text
      full := ← optional? r "full" flag?
      retries := ← optional? r "retries" uint32? }

def SystemBlock.ofJson? (j : Json) : Option SystemBlock := do
  let r ← closedRecord? ["type", "template_file_id"] j
  some { osType := ← optional? r "type" text, template := ← optional? r "template_file_id" text }

def CpuBlock.ofJson? (j : Json) : Option CpuBlock := do
  let r ← closedRecord? ["architecture", "cores", "sockets", "units", "flags", "type", "hotplugged", "limit",
    "numa"] j
  some
    { architecture := ← optional? r "architecture" text
      cores := ← optional? r "cores" uint32?
      sockets := ← optional? r "sockets" uint32?
      units := ← optional? r "units" uint32?
      flags := ← optional? r "flags" (list? text)
      emulation := ← optional? r "type" text
      hotplugged := ← optional? r "hotplugged" uint32?
      limit := ← optional? r "limit" uint32?
      numa := ← optional? r "numa" flag? }

def MemoryBlock.ofJson? (j : Json) : Option MemoryBlock := do
  let r ← closedRecord? ["dedicated", "floating", "shared"] j
  some
    { dedicated := ← optional? r "dedicated" uint32?
      floating := ← optional? r "floating" uint32?
      shared := ← optional? r "shared" uint32? }

def AgentBlock.ofJson? (j : Json) : Option AgentBlock := do
  let r ← closedRecord? ["enabled", "trim", "type"] j
  some
    { enabled := ← optional? r "enabled" flag?
      trim := ← optional? r "trim" flag?
      channel := ← optional? r "type" text }

def startupOfJson? (j : Json) : Option Startup := do
  let r ← closedRecord? ["order", "up_delay", "down_delay"] j
  some
    { order := ← optional? r "order" uint32?
      upDelay := ← optional? r "up_delay" uint32?
      downDelay := ← optional? r "down_delay" uint32? }

def DiskBlock.ofJson? (j : Json) : Option DiskBlock := do
  let r ← closedRecord? ["interface", "datastore_id", "size", "file_format", "file_id", "cache", "discard",
    "ssd", "iothread", "backup", "speed"] j
  some
    { interface := ← defaulted? r "interface" text ""
      datastore := ← optional? r "datastore_id" text
      sizeGib := ← optional? r "size" uint64?
      format := ← optional? r "file_format" text
      source := ← optional? r "file_id" text
      cache := ← optional? r "cache" text
      discard := ← optional? r "discard" text
      ssd := ← optional? r "ssd" flag?
      iothread := ← optional? r "iothread" flag?
      backup := ← optional? r "backup" flag?
      speed := ← optional? r "speed" SpeedLimits.ofJson? }

def FirmwareBlock.ofJson? (j : Json) : Option FirmwareBlock := do
  let r ← closedRecord? ["datastore_id", "file_format"] j
  some { datastore := ← optional? r "datastore_id" text, format := ← optional? r "file_format" text }

def KeyStoreBlock.ofJson? (j : Json) : Option KeyStoreBlock := do
  let r ← closedRecord? ["datastore_id"] j
  some { datastore := ← optional? r "datastore_id" text }

def NicBlock.ofJson? (j : Json) : Option NicBlock := do
  let r ← closedRecord? ["enabled", "bridge", "model", "mac_address", "vlan_id", "rate_limit", "mtu",
    "firewall"] j
  some
    { enabled := ← optional? r "enabled" flag?
      bridge := ← optional? r "bridge" text
      model := ← optional? r "model" text
      mac := ← optional? r "mac_address" text
      vlan := ← optional? r "vlan_id" uint16?
      rate := ← optional? r "rate_limit" binary64?
      mtu := ← optional? r "mtu" uint16?
      firewall := ← optional? r "firewall" flag? }

def AddressBlock.ofJson? (j : Json) : Option AddressBlock := do
  let r ← closedRecord? ["address", "gateway"] j
  some { address := ← optional? r "address" text, gateway := ← optional? r "gateway" text }

def IpBlock.ofJson? (j : Json) : Option IpBlock := do
  let r ← closedRecord? ["ipv4", "ipv6"] j
  some
    { ipv4 := ← optional? r "ipv4" (AddressBlock.ofJson? text)
      ipv6 := ← optional? r "ipv6" (AddressBlock.ofJson? text) }

def resolverOfJson? (j : Json) : Option Resolver := do
  let r ← closedRecord? ["domain", "servers"] j
  some { domain := ← optional? r "domain" text, servers := ← defaulted? r "servers" (list? text) [] }

def accountOfJson? (j : Json) : Option Account := do
  let r ← closedRecord? ["username", "password", "keys"] j
  some
    { name := ← optional? r "username" text
      password := ← optional? r "password" text
      keys := ← defaulted? r "keys" (list? text) [] }

def InitBlock.ofJson? (j : Json) : Option InitBlock := do
  let r ← closedRecord? ["datastore_id", "interface", "dns", "ip_config", "user_account"] j
  some
    { datastore := ← optional? r "datastore_id" text
      interface := ← optional? r "interface" text
      resolver := ← optional? r "dns" (resolverOfJson? text)
      ipConfigs := ← defaulted? r "ip_config" (list? (IpBlock.ofJson? text)) []
      account := ← optional? r "user_account" (accountOfJson? text) }

def fieldNames : List String :=
  ["node_name", "vm_id", "kind", "name", "description", "tags", "pool_id", "started", "template", "on_boot",
    "bios", "machine", "keyboard_layout", "scsi_hardware", "acpi", "tablet_device", "protection", "boot_order",
    "clone", "operating_system", "cpu", "memory", "agent", "startup", "disks", "efi_disk", "tpm_state",
    "network_devices", "initialization"]

/-- The document that a record writes; texts are read by `text`. -/
def ofJson? (j : Json) : Option Document := do
  let r ← closedRecord? fieldNames j
  some
    { node := ← defaulted? r "node_name" text ""
      id := ← optional? r "vm_id" uint32?
      kind := ← defaulted? r "kind" Kind.ofJson? .vm
      name := ← optional? r "name" text
      description := ← optional? r "description" text
      tags := ← optional? r "tags" (list? text)
      pool := ← optional? r "pool_id" text
      started := ← optional? r "started" flag?
      template := ← optional? r "template" flag?
      onBoot := ← optional? r "on_boot" flag?
      bios := ← optional? r "bios" text
      machine := ← optional? r "machine" text
      keyboard := ← optional? r "keyboard_layout" text
      scsiHardware := ← optional? r "scsi_hardware" text
      acpi := ← optional? r "acpi" flag?
      tablet := ← optional? r "tablet_device" flag?
      protection := ← optional? r "protection" flag?
      bootOrder := ← optional? r "boot_order" (list? text)
      clone := ← optional? r "clone" (CloneBlock.ofJson? text)
      system := ← optional? r "operating_system" (SystemBlock.ofJson? text)
      cpu := ← optional? r "cpu" (CpuBlock.ofJson? text)
      memory := ← optional? r "memory" MemoryBlock.ofJson?
      agent := ← optional? r "agent" (AgentBlock.ofJson? text)
      startup := ← optional? r "startup" startupOfJson?
      disks := ← defaulted? r "disks" (list? (DiskBlock.ofJson? text)) []
      firmware := ← optional? r "efi_disk" (FirmwareBlock.ofJson? text)
      keyStore := ← optional? r "tpm_state" (KeyStoreBlock.ofJson? text)
      nics := ← optional? r "network_devices" (list? (NicBlock.ofJson? text))
      init := ← optional? r "initialization" (InitBlock.ofJson? text) }

end Document

end Steward
