/-
Network parameters as property strings. A virtual machine names the model and the address by a pair of
their own or by one pair `model=address`, the last of several counting; a container names the guest's
interface, and keeps the addresses of the guest in the same text.
-/
import Steward.CloudInit
import Steward.Fault
import Steward.Nic

namespace Steward.Nic

open PropertyString (optional flag)

/-- The models whose names stand for a model with an address. -/
def models : List String := ["virtio", "e1000", "e1000e", "rtl8139", "vmxnet3"]

/-- The value of a pair in its own notation. -/
def valueOf {α : Type} (read : String → Option α) (why : Malformed) (key value : String) : Except Fault α :=
  match read value with
  | some a => .ok a
  | none => .error (.malformed key value why)

/-- What one pair says of a device. -/
def update (nic : Nic) (key value : String) : Except Fault Nic :=
  if key = "model" then .ok { nic with model := value }
  else if key = "macaddr" then .ok { nic with mac := some value }
  else if key = "bridge" then .ok { nic with bridge := some value }
  else if key = "tag" then
    (valueOf Text.uint16? .vlan key value).map fun vlan => { nic with vlan := some vlan }
  else if key = "rate" then
    (valueOf Binary64.ofText? .rate key value).map fun rate => { nic with rate := some rate }
  else if key = "mtu" then (valueOf Text.uint16? .mtu key value).map fun mtu => { nic with mtu := some mtu }
  else if key = "firewall" then .ok { nic with firewall := isTrueWord value }
  else if models.contains key then .ok { nic with model := key, mac := some value }
  else .ok nic

/-- What pairs say of a device, one after the other. -/
def updateAll (nic : Nic) : List (String × String) → Except Fault Nic
  | [] => .ok nic
  | (key, value) :: pairs => do updateAll (← nic.update key value) pairs

/-- The device that a virtual machine's parameter describes. -/
def ofText (text : String) : Except Fault Nic := do
  let nic ← updateAll { disabled with enabled := true } (PropertyString.ofText text).pairs
  if nic.model.isEmpty then .error (.malformed "net" text .model) else .ok nic

def number (n : Option UInt16) : Option String := n.map fun n => Text.decimal n.toNat

/-- The pairs that both kinds of instances end with. -/
def commonPairs (nic : Nic) : List (String × String) :=
  optional "tag" (number nic.vlan) ++ optional "rate" (nic.rate.map Binary64.toText) ++
    optional "mtu" (number nic.mtu) ++ flag "firewall" nic.firewall

def toText (nic : Nic) : String :=
  PropertyString.toText
    ⟨none, ("model", nic.model) :: optional "bridge" nic.bridge ++ optional "macaddr" nic.mac ++
      nic.commonPairs⟩

/-- The value of a pair in its own notation, if there is one. -/
def optionalValue {α : Type} (p : PropertyString) (read : String → Option α) (why : Malformed)
    (key : String) : Except Fault (Option α) :=
  match p.get? key with
  | none => .ok none
  | some value => (valueOf read why key value).map some

/-- The device that a container's parameter describes, and the addresses of its guest. -/
def ofContainerText (text : String) : Except Fault (Nic × IpConfig) :=
  let p := PropertyString.ofText text
  if (p.get? "name").isNone then .error (.malformed "net" text .interfaceName)
  else do
    let vlan ← optionalValue p Text.uint16? .vlan "tag"
    let rate ← optionalValue p Binary64.ofText? .rate "rate"
    let mtu ← optionalValue p Text.uint16? .mtu "mtu"
    .ok
      ({ enabled := true
         bridge := p.get? "bridge"
         model := (p.get? "type").getD containerModel
         mac := p.get? "hwaddr"
         vlan := vlan
         rate := rate
         mtu := mtu
         firewall := (p.get? "firewall").any isTrueWord },
        IpConfig.ofProperties p)

/-- The guest's interface of slot `n` is named `ethn`. -/
def toContainerText (slot : Nat) (nic : Nic) (ip : Option IpConfig) : String :=
  PropertyString.toText
    ⟨none, ("name", "eth" ++ Text.decimal slot) :: optional "bridge" nic.bridge ++ optional "hwaddr" nic.mac ++
      (ip.elim [] IpConfig.pairs) ++ nic.commonPairs⟩

end Steward.Nic
