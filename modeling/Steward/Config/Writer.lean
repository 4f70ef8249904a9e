/-
A configuration as a value of the data format: every setting with its origin, sets as lists in order.
How rates are written is left to the caller.
-/
import Steward.Config
import Steward.Json

namespace Steward

open Json (ofOption)

def numberJson (n : UInt32) : Json := .number (.natural n.toUInt64)

def textsJson (texts : List String) : Json := .array (texts.map .string)

def Origin.name : Origin → String
  | explicit => "explicit"
  | policy => "provider_default"
  | hypervisor => "remote_default"

def Setting.toJson {α : Type} (f : α → Json) (s : Setting α) : Json :=
  .object [("source", .string s.origin.name), ("value", f s.value)]

def DiskClass.name : DiskClass → String
  | data => "data"
  | firmware => "efi"
  | keyStore => "tpm_state"

def SpeedLimits.toJson (s : SpeedLimits) : Json :=
  .object
    [("read_mbps", ofOption numberJson s.read), ("write_mbps", ofOption numberJson s.write),
      ("read_burstable_mbps", ofOption numberJson s.readBurst),
      ("write_burstable_mbps", ofOption numberJson s.writeBurst),
      ("iops_read", ofOption numberJson s.readOps), ("iops_write", ofOption numberJson s.writeOps)]

def Disk.toJson (d : Disk) : Json :=
  .object
    [("interface", .string d.interface), ("class", .string d.diskClass.name),
      ("datastore_id", .string d.datastore), ("path_in_datastore", ofOption .string d.path),
      ("size_gib", .number (.natural d.sizeGib)), ("format", ofOption .string d.format),
      ("file_id", ofOption .string d.source), ("cache", ofOption .string d.options.cache),
      ("discard", ofOption .string d.options.discard), ("ssd", .bool d.options.ssd),
      ("iothread", .bool d.options.iothread), ("backup", .bool d.options.backup),
      ("speed", d.options.speed.toJson)]

def Nic.toJson (rate : Binary64 → Json) (nic : Nic) : Json :=
  .object
    [("enabled", .bool nic.enabled), ("bridge", ofOption .string nic.bridge), ("model", .string nic.model),
      ("mac_address", ofOption .string nic.mac), ("vlan_id", ofOption (fun n => .ofNat n.toNat) nic.vlan),
      ("rate_limit", ofOption rate nic.rate), ("mtu", ofOption (fun n => .ofNat n.toNat) nic.mtu),
      ("firewall", .bool nic.firewall)]

def IpConfig.toJson (c : IpConfig) : Json :=
  .object
    [("ipv4_address", ofOption .string c.ipv4), ("ipv4_gateway", ofOption .string c.gateway4),
      ("ipv6_address", ofOption .string c.ipv6), ("ipv6_gateway", ofOption .string c.gateway6)]

def Resolver.toJson (r : Resolver) : Json :=
  .object [("domain", ofOption .string r.domain), ("servers", textsJson r.servers)]

def Account.toJson (a : Account) : Json :=
  .object
    [("username", ofOption .string a.name), ("password", ofOption .string a.password),
      ("keys", textsJson a.keys)]

def CloudInit.toJson (c : CloudInit) : Json :=
  .object
    [("datastore_id", .string c.datastore), ("interface", ofOption .string c.interface),
      ("dns", ofOption Resolver.toJson c.resolver), ("ip_configs", .array (c.ipConfigs.map IpConfig.toJson)),
      ("user_account", ofOption Account.toJson c.account)]

def Startup.toJson (s : Startup) : Json :=
  .object
    [("order", ofOption numberJson s.order), ("up_delay", ofOption numberJson s.upDelay),
      ("down_delay", ofOption numberJson s.downDelay)]

def Agent.toJson (a : Agent) : Json :=
  .object [("enabled", .bool a.enabled), ("trim", .bool a.trim), ("agent_type", .string a.channel)]

def Cpu.toJson (c : Cpu) : Json :=
  .object
    [("architecture", c.architecture.toJson .string), ("cores", c.cores.toJson numberJson),
      ("sockets", c.sockets.toJson numberJson), ("units", c.units.toJson numberJson),
      ("flags", c.flags.toJson textsJson), ("cpu_type", c.emulation.toJson .string),
      ("hotplugged", c.hotplugged.toJson (ofOption numberJson)), ("limit", c.limit.toJson numberJson),
      ("numa", c.numa.toJson .bool)]

def Memory.toJson (m : Memory) : Json :=
  .object
    [("dedicated_mb", m.dedicated.toJson numberJson), ("floating_mb", m.floating.toJson numberJson),
      ("shared_mb", m.shared.toJson numberJson)]

def Config.toJson (rate : Binary64 → Json) (c : Config) : Json :=
  .object
    [("name", c.name.toJson .string), ("description", c.description.toJson .string),
      ("tags", c.tags.toJson fun tags => textsJson tags.keys), ("cpu", c.cpu.toJson Cpu.toJson),
      ("memory", c.memory.toJson Memory.toJson), ("disks", .object (c.disks.map Disk.toJson).entries),
      ("networks", c.nics.toJson fun nics => .array (nics.map (Nic.toJson rate))),
      ("cloud_init", ofOption CloudInit.toJson c.cloudInit),
      ("startup", c.startup.toJson (ofOption Startup.toJson)),
      ("lifecycle", .object [("started", c.started.toJson .bool), ("template", c.template.toJson .bool),
        ("on_boot", c.onBoot.toJson .bool)]),
      ("boot_order", c.bootOrder.toJson textsJson), ("bios", c.bios.toJson .string),
      ("machine", c.machine.toJson .string), ("keyboard_layout", c.keyboard.toJson .string),
      ("os_type", c.osType.toJson .string), ("acpi", c.acpi.toJson .bool), ("tablet_device", c.tablet.toJson .bool),
      ("protection", c.protection.toJson .bool), ("scsi_hardware", c.scsiHardware.toJson .string),
      ("agent", c.agent.toJson Agent.toJson)]

end Steward
