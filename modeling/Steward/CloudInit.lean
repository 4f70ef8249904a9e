/-
First-boot settings of an instance: for a virtual machine a generated drive with addresses, resolver
and account; for a container the same without a drive.
-/
import Steward.PropertyString
import Steward.Text.Unsigned

namespace Steward

/-- Addresses of one network device, with their length of network, or `dhcp` or `auto`. -/
structure IpConfig where
  ipv4 : Option String
  gateway4 : Option String
  ipv6 : Option String
  gateway6 : Option String
  deriving DecidableEq, Repr

namespace IpConfig

open PropertyString (optional)

def none : IpConfig := ⟨.none, .none, .none, .none⟩

def isEmpty (c : IpConfig) : Bool := c.ipv4.isNone && c.gateway4.isNone && c.ipv6.isNone && c.gateway6.isNone

def ofProperties (p : PropertyString) : IpConfig := ⟨p.get? "ip", p.get? "gw", p.get? "ip6", p.get? "gw6"⟩

def ofText (s : String) : IpConfig := ofProperties (.ofText s)

def pairs (c : IpConfig) : List (String × String) :=
  optional "ip" c.ipv4 ++ optional "gw" c.gateway4 ++ optional "ip6" c.ipv6 ++ optional "gw6" c.gateway6

def toText (c : IpConfig) : String := (⟨.none, c.pairs⟩ : PropertyString).toText

def slot (n : Nat) : String := "ipconfig" ++ Text.decimal n

end IpConfig

structure Resolver where
  domain : Option String
  servers : List String
  deriving DecidableEq, Repr

structure Account where
  name : Option String
  password : Option String
  keys : List String
  deriving DecidableEq, Repr

structure CloudInit where
  datastore : String
  /-- The slot of the drive; without one, the slot that it has. -/
  interface : Option String
  resolver : Option Resolver
  ipConfigs : List IpConfig
  account : Option Account
  deriving DecidableEq, Repr

namespace CloudInit

/-- The slot of the drive where nothing else says one. -/
def defaultSlot : String := "ide2"

/-- What the hypervisor reports in the place of a password. -/
def maskedPassword : String := "**********"

/-- Whether a volume is the generated drive of the instance `id`. -/
def isVolumeOf (id : UInt32) (volume : String) : Bool :=
  Text.contains volume ("vm-" ++ Text.decimal id.toNat ++ "-cloudinit")

/-- The text of a slot that asks for a generated drive. -/
def driveText (datastore : String) : String := datastore ++ ":cloudinit,media=cdrom"

end CloudInit

end Steward
