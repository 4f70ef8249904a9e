/-
First-boot settings. The generated drive of a virtual machine is moved by detaching it and attaching it
anew while the instance is stopped; user, resolver and addresses are parameters of their own.
-/
import Steward.CloudInit
import Steward.Dict
import Steward.Intent

namespace Steward

structure CloudInitPlan where
  /-- The drive is attached anew, for which the instance must be stopped. -/
  relocation : Bool
  detach : List Intent
  attach : Option Intent
  updates : List Intent
  rebootRequired : Bool
  deriving DecidableEq

namespace CloudInitPlan

def empty : CloudInitPlan := ⟨false, [], none, [], false⟩

def isEmpty (p : CloudInitPlan) : Bool := p.detach.isEmpty && p.attach.isNone && p.updates.isEmpty

end CloudInitPlan

namespace Plan

/-- The step that makes a parameter say what is wanted, none where it does. -/
def setOrDelete (field param : String) (want found : Option String) : List Intent :=
  if want = found then []
  else
    match want with
    | some value => [.update field param value .drift]
    | none => [.delete param .cleared]

/-- Several values in one parameter, none removing it. -/
def joined? (sep : String) (values : List String) : Option String :=
  if values.isEmpty then none else some (Text.join sep values)

/-- Whether a password that is stored can be taken for the wanted one: the hypervisor hides what is
stored, and then any is taken. -/
def passwordSettled (want found : Option String) : Bool :=
  (found.isSome || want.isNone) && (found == some CloudInit.maskedPassword || want == found)

def accountIntents (want : Account) (found : Option Account) : List Intent :=
  let found := found.getD ⟨none, none, []⟩
  setOrDelete "cloud_init.user_account.username" "ciuser" want.name found.name ++
    (if passwordSettled want.password found.password then []
      else setOrDelete "cloud_init.user_account.password" "cipassword" want.password found.password) ++
    setOrDelete "cloud_init.user_account.keys" "sshkeys" (joined? "\n" want.keys) (joined? "\n" found.keys)

def resolverIntents (want : Resolver) (found : Option Resolver) : List Intent :=
  let found := found.getD ⟨none, []⟩
  setOrDelete "cloud_init.dns.domain" "searchdomain" want.domain found.domain ++
    setOrDelete "cloud_init.dns.servers" "nameserver" (joined? " " want.servers) (joined? " " found.servers)

def ipConfigText? (config : Option IpConfig) : Option String :=
  (config.filter fun c => !c.isEmpty).map IpConfig.toText

def ipConfigIntents (want found : List IpConfig) : List Intent :=
  (List.range (max want.length found.length)).flatMap fun n =>
    setOrDelete ("cloud_init.ip_config[" ++ Text.decimal n ++ "]") (IpConfig.slot n)
      (ipConfigText? want[n]?) (ipConfigText? found[n]?)

/-- The slot where the drive is wanted: the declared one, or the one it has, or the default. -/
def targetSlot (want : CloudInit) (found : Option CloudInit) : String :=
  (want.interface <|> found.bind (·.interface)).getD CloudInit.defaultSlot

def needsRelocation (want : CloudInit) (found : Option CloudInit) : Bool :=
  found.bind (·.interface) != some (targetSlot want found) || found.any fun c => c.datastore != want.datastore

/-- What has to go before the drive is attached: the drive where it is, and what is in its new place. -/
def detachIntents (want : CloudInit) (found : Option CloudInit) (occupied : NameSet) : List Intent :=
  let slot := found.bind (·.interface)
  let target := targetSlot want found
  (slot.toList.map fun slot => Intent.delete slot .cloudInitDetach) ++
    if slot ≠ some target ∧ occupied.contains target then [.delete target .cloudInitDetach] else []

def attachIntent (want : CloudInit) (found : Option CloudInit) : Intent :=
  .update "cloud_init.interface" (targetSlot want found) (CloudInit.driveText want.datastore) .cloudInitAttach

def cloudInitUpdates (want : CloudInit) (found : Option CloudInit) : List Intent :=
  (want.account.map fun account => accountIntents account (found.bind (·.account))).getD [] ++
    (want.resolver.map fun resolver => resolverIntents resolver (found.bind (·.resolver))).getD [] ++
    ipConfigIntents want.ipConfigs ((found.map (·.ipConfigs)).getD [])

/-- First-boot settings of a virtual machine; `occupied` are the slots that hold a drive. -/
def planCloudInit (desired found : Option CloudInit) (occupied : NameSet) : CloudInitPlan :=
  match desired with
  | none => .empty
  | some want =>
    let relocation := needsRelocation want found
    let updates := cloudInitUpdates want found
    { relocation := relocation
      detach := if relocation then detachIntents want found occupied else []
      attach := if relocation then some (attachIntent want found) else none
      updates := updates
      rebootRequired := relocation || !updates.isEmpty }

/-- First-boot settings of a container: its resolver. Addresses are part of the network slots. -/
def planContainerResolver (desired found : Option CloudInit) : CloudInitPlan :=
  let updates := match desired.bind (·.resolver) with
    | some want => resolverIntents want (found.bind (·.resolver))
    | none => []
  { CloudInitPlan.empty with updates := updates, rebootRequired := !updates.isEmpty }

end Plan

end Steward
