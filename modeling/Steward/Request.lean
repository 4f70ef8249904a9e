/-
What the hypervisor is asked for: instances to create or copy, parameters to set and delete, disks to
move and resize, instances to migrate and stop. A request to create an instance says what is declared of it,
but for two things that are left to the first pass over it: an imported disk has its size from its source
and grows later, and a container becomes a template later.
-/
import Steward.Desired
import Steward.Disk.Drive
import Steward.Failure
import Steward.Nic.Property
import Steward.Observed
import Steward.Plan.FirstBoot
import Steward.Plan.Settings

namespace Steward

structure CreateRequest where
  kind : Kind
  /-- Without one, the hypervisor gives a number. -/
  id : Option UInt32
  params : Dict String
  deriving DecidableEq

structure CloneRequest where
  newId : Option UInt32
  name : Option String
  description : Option String
  pool : Option String
  datastore : Option String
  full : Bool
  deriving DecidableEq, Repr

structure UpdateRequest where
  set : Dict String
  delete : List String
  deriving DecidableEq

def UpdateRequest.isEmpty (r : UpdateRequest) : Bool := r.set.isEmpty && r.delete.isEmpty

structure MoveDiskRequest where
  interface : String
  datastore : String
  deleteOriginal : Bool
  deriving DecidableEq, Repr

structure ResizeDiskRequest where
  interface : String
  sizeGib : UInt64
  deriving DecidableEq, Repr

structure MigrateRequest where
  node : String
  withLocalDisks : Bool
  online : Bool
  deriving DecidableEq, Repr

namespace Desired

open PropertyString (optional)

variable (desired : Desired)

/-- The parameters that both kinds of instances have. -/
def commonParams : List (String × String) :=
  let c := desired.config
  optional desired.kind.nameKey (nonEmpty? c.name.value) ++
    optional "description" (nonEmpty? c.description.value) ++
    optional "tags" (tagsText? c.tags.value) ++
    optional "pool" desired.pool ++
    [("onboot", flagDigit c.onBoot.value), ("protection", flagDigit c.protection.value)] ++
    optional "startup" (startupText? c.startup.value) ++
    optional "cores" (numberText? c.cpu.value.cores.value) ++
    optional "cpuunits" (numberText? c.cpu.value.units.value) ++
    optional "cpulimit" (nonZero? c.cpu.value.limit.value) ++
    optional "memory" (numberText? c.memory.value.dedicated.value)

/-- Parameters of processor and memory of a virtual machine. The architecture is sent only if the user
wrote one; the name of shared memory needs the number of the instance. -/
def vmHardwareParams : List (String × String) :=
  let cpu := desired.config.cpu.value
  let memory := desired.config.memory.value
  optional "sockets" (numberText? cpu.sockets.value) ++
    [("cpu", Cpu.emulationText cpu.emulation.value cpu.flags.value), ("numa", flagDigit cpu.numa.value)] ++
    (if cpu.architecture.isExplicit then optional "arch" (nonEmpty? cpu.architecture.value) else []) ++
    optional "vcpus" (cpu.hotplugCount.map fun n => Text.decimal n.toNat) ++
    optional "balloon" (numberText? memory.floating.value) ++
    optional "ivshmem" (desired.id.bind fun id => sharedMemoryText? id memory.shared.value)

def vmMachineParams : List (String × String) :=
  let c := desired.config
  [("bios", c.bios.value)] ++ optional "machine" (nonEmpty? c.machine.value) ++
    optional "keyboard" (nonEmpty? c.keyboard.value) ++
    [("ostype", c.osType.value), ("acpi", flagDigit c.acpi.value), ("tablet", flagDigit c.tablet.value),
      ("scsihw", c.scsiHardware.value), ("agent", c.agent.value.toText)] ++
    optional "boot" (bootOrderText? c.bootOrder.value) ++
    PropertyString.flag "template" c.template.value

def vmDeviceParams : List (String × String) :=
  (desired.config.disks.entries.map fun (slot, disk) => (slot, disk.toText)) ++
    desired.config.nics.value.zipIdx.filterMap fun (nic, slot) =>
      if nic.enabled then some (nicSlot slot, nic.toText) else none

/-- The parameters that steps set. -/
def settings (intents : List Intent) : List (String × String) :=
  intents.filterMap fun i =>
    match i.op with
    | .update _ param value => some (param, value)
    | _ => none

/-- First-boot settings of an instance that has none yet. -/
def cloudInitParams : List (String × String) :=
  let plan := Plan.planCloudInit desired.config.cloudInit none .empty
  settings (plan.attach.toList ++ plan.updates)

/-- Parameters added to others, none of which may be there already. -/
def addParams (params : Dict String) : List (String × String) → Except Failure (Dict String)
  | [] => .ok params
  | (key, value) :: rest =>
    if params.contains key then .error (.configuration ("cloud-init drive collides with " ++ key))
    else addParams (params.insert key value) rest

def vmParams : Except Failure (Dict String) :=
  addParams
    (.ofList (desired.commonParams ++ desired.vmHardwareParams ++ desired.vmMachineParams ++
      desired.vmDeviceParams))
    desired.cloudInitParams

def containerNicParams : List (String × String) :=
  let addresses := (desired.config.cloudInit.map (·.ipConfigs)).getD []
  desired.config.nics.value.zipIdx.filterMap fun (nic, slot) =>
    if nic.enabled then some (nicSlot slot, nic.toContainerText slot addresses[slot]?) else none

/-- First-boot settings of a container; password and keys are accepted only when it is created. -/
def containerInitParams : List (String × String) :=
  let resolver := desired.config.cloudInit.bind (·.resolver)
  let account := desired.config.cloudInit.bind (·.account)
  optional "searchdomain" (resolver.bind (·.domain)) ++
    optional "nameserver" (resolver.bind fun r => Plan.joined? " " r.servers) ++
    optional "password" (account.bind (·.password)) ++
    optional "ssh-public-keys" (account.bind fun a => Plan.joined? "\n" a.keys)

def containerParams : Except Failure (Dict String) :=
  match desired.system.bind (·.template) with
  | none => .error (.configuration "a container needs operating_system.template_file_id")
  | some template =>
    .ok (.ofList (desired.commonParams ++ [("ostemplate", template)] ++
      optional "swap" (numberText? desired.config.memory.value.floating.value) ++
      optional rootSlot ((desired.config.disks.get? rootSlot).map Disk.toText) ++
      desired.containerNicParams ++ desired.containerInitParams))

/-- The request for a new instance that is no copy. -/
def createRequest : Except Failure CreateRequest :=
  (match desired.kind with
    | .vm => desired.vmParams
    | .container => desired.containerParams).map fun params => ⟨desired.kind, desired.id, params⟩

/-- The instance to copy and the request for the copy. The copy is made where its source is; another
node is reached by a later migration. -/
def cloneRequest? : Option (Identity × CloneRequest) :=
  desired.clone.map fun source =>
    (⟨source.node.getD desired.node, source.id, desired.kind⟩,
      { newId := desired.id
        name := nonEmpty? desired.config.name.value
        description := nonEmpty? desired.config.description.value
        pool := desired.pool
        datastore := source.datastore
        full := source.full })

end Desired

end Steward
