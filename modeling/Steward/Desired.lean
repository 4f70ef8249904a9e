/-
The instance that a document declares: every setting filled in from the policy where the document says
nothing, with its origin. `Document.desired` refuses a document that contradicts itself or asks for
what its kind of instance does not have.
-/
import Steward.Document
import Steward.Fault
import Steward.Policy

namespace Steward

/-- The instance that a new one is copied from. -/
structure CloneSource where
  /-- Without one, the node of the new instance. -/
  node : Option String
  id : UInt32
  datastore : Option String
  full : Bool
  retries : UInt32
  deriving DecidableEq, Repr

structure OperatingSystem where
  osType : String
  /-- What a container is unpacked from. -/
  template : Option String
  deriving DecidableEq, Repr

structure Desired where
  node : String
  /-- Without one, the hypervisor gives a number to a new instance. -/
  id : Option UInt32
  kind : Kind
  pool : Option String
  clone : Option CloneSource
  system : Option OperatingSystem
  config : Config
  deriving DecidableEq

def Desired.identity (d : Desired) (id : UInt32) : Identity := ⟨d.node, id, d.kind⟩

/-- The numbers that instances may have. -/
def minId : UInt32 := 100
def maxId : UInt32 := 999999999

/-- The devices to boot from where none is declared: the first disk by these priorities, and the first
network device if any is enabled. -/
def bootPriority : List String := ["sata0", "scsi0", "virtio0"]

def derivedBootOrder {α : Type} (disks : Dict α) (nics : List Nic) : List String :=
  (bootPriority.find? disks.contains).toList ++ (if nics.any Nic.enabled then ["net0"] else [])

/-- Disks by their slots, no slot twice. -/
def disksBySlot (disks : Dict Disk) : List Disk → Except Fault (Dict Disk)
  | [] => .ok disks
  | d :: rest =>
    if disks.contains d.interface then .error (.repeatedInterface d.interface)
    else disksBySlot (disks.insert d.interface d) rest

namespace Document

variable (policy : Policy) (doc : Document)

def checkNode : Except Fault Unit :=
  if (Text.trim doc.node.toList).isEmpty then .error .nodeMissing else .ok ()

def checkId : Except Fault Unit :=
  match doc.id with
  | some id => if minId ≤ id ∧ id ≤ maxId then .ok () else .error (.idOutOfRange id)
  | none => .ok ()

def cloneSource : Option CloneSource :=
  doc.clone.map fun c =>
    ⟨c.node, c.id, c.datastore, c.full.getD policy.cloneFull, c.retries.getD policy.cloneRetries⟩

/-- The operating system: a new instance needs one unless it is a copy, a new container also needs what
it is unpacked from. -/
def operatingSystem : Except Fault (Option OperatingSystem) :=
  match doc.clone, doc.system.map fun s => OperatingSystem.mk (s.osType.getD policy.osType) s.template with
  | some _, system => .ok system
  | none, none => .error .systemMissing
  | none, some system =>
    if doc.kind = .container ∧ system.template.isNone then .error .templateMissing else .ok (some system)

def DiskBlock.toDisk (b : DiskBlock) : Disk where
  interface := b.interface
  diskClass := .data
  datastore := b.datastore.getD policy.diskDatastore
  path := none
  sizeGib := b.sizeGib.getD policy.diskSizeGib
  format := b.format
  source := b.source
  options :=
    { cache := b.cache
      discard := b.discard
      ssd := b.ssd.getD false
      iothread := b.iothread.getD false
      backup := b.backup.getD policy.diskBackup
      speed := b.speed.getD .none }

/-- Disks in their slots, each block checked when its turn comes. -/
def collectDisks (disks : Dict Disk) : List DiskBlock → Except Fault (Dict Disk)
  | [] => .ok disks
  | b :: rest => do
    discard <| parseInterface b.interface
    collectDisks (← disksBySlot disks [b.toDisk policy]) rest

/-- Firmware variables and the state of the key store take a slot of their own and one GiB. -/
def firmwareDisks : List Disk :=
  (doc.firmware.map fun b =>
    Disk.plain firmwareSlot .firmware (b.datastore.getD policy.firmwareDatastore) 1 b.format true).toList ++
  (doc.keyStore.map fun b =>
    Disk.plain keyStoreSlot .keyStore (b.datastore.getD policy.firmwareDatastore) 1 none true).toList

def vmDisks : Except Fault (Dict Disk) := do
  disksBySlot (← collectDisks policy .empty doc.disks) (doc.firmwareDisks policy)

/-- The first option of a disk that a container does not have. -/
def DiskBlock.vmOption? (b : DiskBlock) : Option DiskOption :=
  if b.source.isSome then some .fileId
  else if b.format.isSome then some .fileFormat
  else if b.cache.isSome then some .cache
  else if b.discard.isSome then some .discard
  else if b.ssd.isSome then some .ssd
  else if b.iothread.isSome then some .iothread
  else if b.speed.isSome then some .speed
  else none

/-- A container has one disk at most, its root. -/
def containerDisks : Except Fault (Dict Disk) :=
  if doc.firmware.isSome ∨ doc.keyStore.isSome then .error .firmwareDiskInContainer
  else
    match doc.disks with
    | [] => .ok .empty
    | [b] =>
      if b.interface ≠ rootSlot then .error (.rootDiskName b.interface)
      else
        match b.vmOption? with
        | some option => .error (.rootDiskOption option)
        | none =>
          .ok (Dict.empty.insert rootSlot
            (Disk.plain rootSlot .data (b.datastore.getD policy.diskDatastore)
              (b.sizeGib.getD policy.diskSizeGib) none (b.backup.getD policy.diskBackup)))
    | blocks => .error (.severalRootDisks blocks.length)

def disksOf : Except Fault (Dict Disk) :=
  match doc.kind with
  | .vm => doc.vmDisks policy
  | .container => doc.containerDisks policy

def NicBlock.modelFor (b : NicBlock) : Kind → Except Fault String
  | .vm => .ok (b.model.getD policy.nicModel)
  | .container =>
    match b.model with
    | none => .ok containerModel
    | some model => if model = containerModel then .ok model else .error (.containerNetworkModel model)

def NicBlock.toNic (b : NicBlock) (kind : Kind) : Except Fault Nic :=
  (b.modelFor policy kind).map fun model =>
    { enabled := b.enabled.getD true
      bridge := some (b.bridge.getD policy.bridge)
      model := model
      mac := b.mac
      vlan := b.vlan
      rate := b.rate
      mtu := b.mtu
      firewall := b.firewall.getD false }

def nicsOf : Except Fault (Setting (List Nic)) :=
  match doc.nics with
  | none => .ok ⟨[], .policy⟩
  | some blocks =>
    if maxNics < blocks.length then .error (.tooManyNetworks blocks.length)
    else (blocks.mapM fun b => NicBlock.toNic policy b doc.kind).map .explicit

def IpBlock.toIpConfig (b : IpBlock) : IpConfig :=
  ⟨b.ipv4.bind (·.address), b.ipv4.bind (·.gateway), b.ipv6.bind (·.address), b.ipv6.bind (·.gateway)⟩

/-- First-boot settings with their place; keys count without blanks around them. -/
def InitBlock.toCloudInit (b : InitBlock) (datastore : String) (interface : Option String) : CloudInit where
  datastore := datastore
  interface := interface
  resolver := b.resolver
  ipConfigs := b.ipConfigs.map IpBlock.toIpConfig
  account := b.account.map fun a => { a with keys := a.keys.map Text.trimmed }

/-- The slot of a first-boot drive takes removable media and holds no disk. -/
def checkCloudInitSlot (disks : Dict Disk) (slot : String) : Except Fault Unit := do
  let (bus, _) ← parseInterface slot
  if bus = .virtio then .error (.cloudInitBus slot)
  else if disks.contains slot then .error (.repeatedInterface slot)
  else .ok ()

def vmCloudInit (disks : Dict Disk) (b : InitBlock) : Except Fault CloudInit := do
  b.interface.forM (checkCloudInitSlot disks)
  .ok (b.toCloudInit (b.datastore.getD policy.cloudInitDatastore) b.interface)

/-- A container keeps its first-boot settings without a drive, and its account is always root. -/
def containerCloudInit (b : InitBlock) : Except Fault CloudInit :=
  if b.interface.isSome ∨ b.datastore.isSome then .error .containerCloudInitPlace
  else if (b.account.bind (·.name)).isSome then .error .containerAccountName
  else .ok (b.toCloudInit "" none)

def cloudInitOf (disks : Dict Disk) : Except Fault (Option CloudInit) :=
  match doc.init with
  | none => .ok none
  | some b =>
    match doc.kind with
    | .vm => (vmCloudInit policy disks b).map some
    | .container => (containerCloudInit b).map some

def cpuOf : Setting Cpu :=
  let b := doc.cpu.getD {}
  { value :=
      { architecture := .declared b.architecture policy.cpuArchitecture
        cores := .declared b.cores policy.cpuCores
        sockets := .declared b.sockets policy.cpuSockets
        units := .declared b.units policy.cpuUnits
        flags := .declared b.flags []
        emulation := .declared b.emulation policy.cpuType
        hotplugged := .declared (b.hotplugged.map some) none
        limit := .declared b.limit policy.cpuLimit
        numa := .declared b.numa policy.cpuNuma }
    origin := if b = {} then .policy else .explicit }

def memoryOf : Setting Memory :=
  let b := doc.memory.getD {}
  { value :=
      { dedicated := .declared b.dedicated policy.memoryDedicated
        floating := .declared b.floating policy.memoryFloating
        shared := .declared b.shared policy.memoryShared }
    origin := if b = {} then .policy else .explicit }

def agentOf : Setting Agent :=
  let b := doc.agent.getD {}
  { value :=
      { enabled := b.enabled.getD policy.agentEnabled
        trim := b.trim.getD policy.agentTrim
        channel := b.channel.getD policy.agentChannel }
    origin := if b = {} then .policy else .explicit }

def startupOf : Setting (Option Startup) :=
  .declared ((doc.startup.filter fun s => !s.isEmpty).map some) none

/-- Tags without blanks around them, none empty and none twice. -/
def tagsOf (tags : List String) : NameSet :=
  NameSet.ofList ((tags.map Text.trimmed).filter fun tag => !tag.isEmpty)

def configOf (system : Option OperatingSystem) (disks : Dict Disk) (nics : Setting (List Nic))
    (cloudInit : Option CloudInit) : Config where
  name := .declared doc.name ""
  description := .declared (doc.description.map Text.withoutLineEnds) ""
  tags := .declared (doc.tags.map tagsOf) .empty
  cpu := doc.cpuOf policy
  memory := doc.memoryOf policy
  disks := disks
  nics := nics
  cloudInit := cloudInit
  startup := doc.startupOf
  started := .declared doc.started policy.started
  template := .declared doc.template policy.template
  onBoot := .declared doc.onBoot policy.onBoot
  bootOrder := .declared doc.bootOrder (derivedBootOrder disks nics.value)
  bios := .declared doc.bios policy.bios
  machine := .declared doc.machine policy.machine
  keyboard := .declared doc.keyboard policy.keyboard
  osType := .declared (system.map (·.osType)) policy.osType
  acpi := .declared doc.acpi policy.acpi
  tablet := .declared doc.tablet policy.tablet
  protection := .declared doc.protection policy.protection
  scsiHardware := .declared doc.scsiHardware policy.scsiHardware
  agent := doc.agentOf policy

/-- The instance that the document declares under a policy. -/
def desired : Except Fault Desired := do
  doc.checkNode
  doc.checkId
  let system ← doc.operatingSystem policy
  let disks ← doc.disksOf policy
  let nics ← doc.nicsOf policy
  let cloudInit ← doc.cloudInitOf policy disks
  .ok
    { node := doc.node
      id := doc.id
      kind := doc.kind
      pool := doc.pool
      clone := doc.cloneSource policy
      system := system
      config := doc.configOf policy system disks nics cloudInit }

end Document

end Steward
