/-
Devices and settings read from values of the data format, as `Config.toJson` writes them. A rate is a
number here.
-/
import Steward.Config
import Steward.Document.Reader

namespace Steward

open Json

def DiskClass.ofJson? : Json → Option DiskClass
  | .string "data" => some .data
  | .string "efi" => some .firmware
  | .string "tpm_state" => some .keyStore
  | _ => none

def Disk.ofJson? (j : Json) : Option Disk := do
  let r ← completeRecord? ["interface", "class", "datastore_id", "path_in_datastore", "size_gib", "format",
    "file_id", "cache", "discard", "ssd", "iothread", "backup", "speed"] j
  some
    { interface := ← required? r "interface" text?
      diskClass := ← required? r "class" DiskClass.ofJson?
      datastore := ← required? r "datastore_id" text?
      path := ← optional? r "path_in_datastore" text?
      sizeGib := ← required? r "size_gib" uint64?
      format := ← optional? r "format" text?
      source := ← optional? r "file_id" text?
      options :=
        { cache := ← optional? r "cache" text?
          discard := ← optional? r "discard" text?
          ssd := ← required? r "ssd" flag?
          iothread := ← required? r "iothread" flag?
          backup := ← required? r "backup" flag?
          speed := ← required? r "speed" SpeedLimits.ofJson? } }

def Nic.ofJson? (j : Json) : Option Nic := do
  let r ← completeRecord? ["enabled", "bridge", "model", "mac_address", "vlan_id", "rate_limit", "mtu",
    "firewall"] j
  some
    { enabled := ← required? r "enabled" flag?
      bridge := ← optional? r "bridge" text?
      model := ← required? r "model" text?
      mac := ← optional? r "mac_address" text?
      vlan := ← optional? r "vlan_id" uint16?
      rate := ← optional? r "rate_limit" binary64?
      mtu := ← optional? r "mtu" uint16?
      firewall := ← required? r "firewall" flag? }

def IpConfig.ofJson? (j : Json) : Option IpConfig := do
  let r ← completeRecord? ["ipv4_address", "ipv4_gateway", "ipv6_address", "ipv6_gateway"] j
  some
    { ipv4 := ← optional? r "ipv4_address" text?
      gateway4 := ← optional? r "ipv4_gateway" text?
      ipv6 := ← optional? r "ipv6_address" text?
      gateway6 := ← optional? r "ipv6_gateway" text? }

def Resolver.ofJson? (j : Json) : Option Resolver := do
  let r ← completeRecord? ["domain", "servers"] j
  some { domain := ← optional? r "domain" text?, servers := ← required? r "servers" (list? text?) }

def Account.ofJson? (j : Json) : Option Account := do
  let r ← completeRecord? ["username", "password", "keys"] j
  some
    { name := ← optional? r "username" text?
      password := ← optional? r "password" text?
      keys := ← required? r "keys" (list? text?) }

def CloudInit.ofJson? (j : Json) : Option CloudInit := do
  let r ← completeRecord? ["datastore_id", "interface", "dns", "ip_configs", "user_account"] j
  some
    { datastore := ← required? r "datastore_id" text?
      interface := ← optional? r "interface" text?
      resolver := ← optional? r "dns" Resolver.ofJson?
      ipConfigs := ← required? r "ip_configs" (list? IpConfig.ofJson?)
      account := ← optional? r "user_account" Account.ofJson? }

def Origin.ofJson? : Json → Option Origin
  | .string "explicit" => some .explicit
  | .string "provider_default" => some .policy
  | .string "remote_default" => some .hypervisor
  | _ => none

/-- A setting whose value is read by `read`. -/
def Setting.ofJson? {α : Type} (read : Json → Option α) (j : Json) : Option (Setting α) := do
  let r ← completeRecord? ["source", "value"] j
  some { value := ← required? r "value" read, origin := ← required? r "source" Origin.ofJson? }

end Steward
