/-
Network devices of an instance. The number of a slot is the place in the list; a slot that holds
nothing is a disabled device.
-/
import Steward.Binary64.Decimal

namespace Steward

structure Nic where
  enabled : Bool
  bridge : Option String
  model : String
  /-- Without one the hypervisor assigns one. -/
  mac : Option String
  vlan : Option UInt16
  /-- In MB per second. -/
  rate : Option Binary64
  mtu : Option UInt16
  firewall : Bool
  deriving DecidableEq, Repr

/-- How many network slots an instance has. -/
def maxNics : Nat := 32

/-- The only model that containers have. -/
def containerModel : String := "veth"

def nicSlot (slot : Nat) : String := "net" ++ Text.decimal slot

namespace Nic

/-- A slot that holds nothing. -/
def disabled : Nic := ⟨false, none, "", none, none, none, none, false⟩

/-- Hardware addresses do not differ by the case of their letters. -/
def sameMac (a b : String) : Bool := a.toList.map Char.toLower == b.toList.map Char.toLower

/-- Rates are equal as numbers. -/
def sameRate : Option Binary64 → Option Binary64 → Bool
  | none, none => true
  | some a, some b => a.equals b
  | _, _ => false

/-- Whether an observed device is what is wanted. A wanted device without an address takes any. -/
def satisfiedBy (desired observed : Nic) : Bool :=
  if desired.enabled then
    observed.enabled && desired.mac.all (fun mac => observed.mac.any (sameMac mac)) &&
      desired.bridge == observed.bridge && desired.model == observed.model &&
      desired.vlan == observed.vlan && sameRate desired.rate observed.rate &&
      desired.mtu == observed.mtu && desired.firewall == observed.firewall
  else !observed.enabled

end Nic

end Steward
