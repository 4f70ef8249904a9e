/-
The settings of an instance compared one by one. Each comparison names its parameter and says how the
declared value is written there, or that the parameter is removed; `Comparison.intent?` is the step
that follows. After a copy, a setting that the user left out is not compared at all: the copy keeps
what it inherited.
-/
import Steward.Failure
import Steward.Intent
import Steward.Observed

namespace Steward

structure Comparison where
  /-- What the user calls the setting. -/
  field : String
  param : String
  /-- Whether a change takes effect only with a restart. -/
  restart : Bool
  differs : Bool
  /-- The declared value as it is written; none removes the parameter. -/
  value : Option String

def Comparison.intent? (c : Comparison) : Option Intent :=
  if c.differs then
    match c.value with
    | some value => some (.update c.field c.param value .drift)
    | none => some (.delete c.param .cleared)
  else none

/-- Which instance is compared, and whether it has just been copied. -/
structure DiffContext where
  id : UInt32
  kind : Kind
  copied : Bool

namespace DiffContext

variable (ctx : DiffContext)

/-- Whether a setting or a block is left as the copy inherited it. -/
def inherits {α : Type} (desired : Setting α) : Bool := ctx.copied && desired.isPolicy

/-- Whether a setting has to be written. -/
def differs {α : Type} [DecidableEq α] (desired observed : Setting α) : Bool :=
  !ctx.inherits desired && desired.differsFrom observed

def compare {α : Type} [DecidableEq α] (field param : String) (restart : Bool)
    (desired observed : Setting α) (encode : α → Option String) : Comparison :=
  ⟨field, param, restart, ctx.differs desired observed, encode desired.value⟩

end DiffContext

/-- A text that removes its parameter when empty. -/
def nonEmpty? (s : String) : Option String := if s.isEmpty then none else some s

/-- A number that removes its parameter when zero. -/
def nonZero? (n : UInt32) : Option String := if n = 0 then none else some (Text.decimal n.toNat)

def numberText? (n : UInt32) : Option String := some (Text.decimal n.toNat)

def flagText? (b : Bool) : Option String := some (flagDigit b)

def tagsText? (tags : NameSet) : Option String := if tags.isEmpty then none else some (Tags.toText tags)

def startupText? (s : Option Startup) : Option String := (s.filter fun s => !s.isEmpty).map Startup.toText

def bootOrderText? (devices : List String) : Option String :=
  if devices.isEmpty then none else some (BootOrder.toText devices)

def sharedMemoryText? (id : UInt32) (sizeMb : UInt32) : Option String :=
  if sizeMb = 0 then none else some (SharedMemory.toText sizeMb id)

namespace Plan

variable (ctx : DiffContext) (desired observed : Config)

def generalComparisons : List Comparison :=
  [ctx.compare "name" ctx.kind.nameKey false desired.name observed.name nonEmpty?,
    ctx.compare "description" "description" false desired.description observed.description nonEmpty?,
    ctx.compare "tags" "tags" false desired.tags observed.tags tagsText?,
    ctx.compare "on_boot" "onboot" false desired.onBoot observed.onBoot flagText?,
    ctx.compare "protection" "protection" false desired.protection observed.protection flagText?,
    ctx.compare "startup" "startup" false desired.startup observed.startup startupText?]

/-- An instance becomes a template and never an instance again. -/
def templateIntents : List Intent :=
  if ctx.differs desired.template observed.template && desired.template.value then
    [.update "template" "template" "1" .drift]
  else []

def templateFailures : List Failure :=
  if ctx.differs desired.template observed.template && !desired.template.value then
    [.unsupported "a template cannot be converted back into a regular instance"]
  else []

/-- The type and the flags of a processor, which share one parameter. -/
def emulation (cpu : Cpu) : Setting (String × List String) := cpu.emulation.zip cpu.flags

/-- The number of processors that can be plugged in, zero counting as none. -/
def hotplug (cpu : Cpu) : Setting (Option UInt32) := cpu.hotplugged.map fun n => n.filter (0 < ·)

def cpuComparisons : List Comparison :=
  let want := desired.cpu.value
  let found := observed.cpu.value
  let vm := ctx.kind == .vm
  if ctx.inherits desired.cpu then []
  else
    [ctx.compare "cpu.cores" "cores" vm want.cores found.cores numberText?,
      ctx.compare "cpu.units" "cpuunits" false want.units found.units numberText?,
      ctx.compare "cpu.limit" "cpulimit" false want.limit found.limit nonZero?] ++
    if vm then
      [ctx.compare "cpu.sockets" "sockets" true want.sockets found.sockets numberText?,
        ctx.compare "cpu.architecture" "arch" true want.architecture found.architecture nonEmpty?,
        ctx.compare "cpu.type" "cpu" true (emulation want) (emulation found) fun (type, flags) =>
          some (Cpu.emulationText type flags),
        ctx.compare "cpu.hotplugged" "vcpus" true (hotplug want) (hotplug found) fun n =>
          n.map fun n => Text.decimal n.toNat,
        ctx.compare "cpu.numa" "numa" true want.numa found.numa flagText?]
    else []

def memoryComparisons : List Comparison :=
  let want := desired.memory.value
  let found := observed.memory.value
  let vm := ctx.kind == .vm
  if ctx.inherits desired.memory then []
  else
    [ctx.compare "memory.dedicated" "memory" vm want.dedicated found.dedicated numberText?,
      ctx.compare "memory.floating" ctx.kind.floatingKey false want.floating found.floating numberText?] ++
    if vm then
      [ctx.compare "memory.shared" "ivshmem" true want.shared found.shared (sharedMemoryText? ctx.id)]
    else []

/-- A boot order derived from the disks means nothing where disks are let alone. -/
def bootOrderComparisons : List Comparison :=
  if desired.bootOrder.isPolicy && desired.disks.isEmpty then []
  else [ctx.compare "boot_order" "boot" true desired.bootOrder observed.bootOrder bootOrderText?]

/-- What only virtual machines have. -/
def machineComparisons : List Comparison :=
  [ctx.compare "bios" "bios" true desired.bios observed.bios some,
    ctx.compare "machine" "machine" true desired.machine observed.machine nonEmpty?,
    ctx.compare "keyboard_layout" "keyboard" true desired.keyboard observed.keyboard nonEmpty?,
    ctx.compare "os_type" "ostype" true desired.osType observed.osType some,
    ctx.compare "acpi" "acpi" true desired.acpi observed.acpi flagText?,
    ctx.compare "tablet_device" "tablet" true desired.tablet observed.tablet flagText?,
    ctx.compare "scsi_hardware" "scsihw" true desired.scsiHardware observed.scsiHardware some,
    ctx.compare "agent" "agent" true desired.agent observed.agent fun a => some a.toText] ++
  bootOrderComparisons ctx desired observed

/-- The comparisons behind the template's, in their order. -/
def hardwareComparisons : List Comparison :=
  cpuComparisons ctx desired observed ++ memoryComparisons ctx desired observed ++
    if ctx.kind = .vm then machineComparisons ctx desired observed else []

end Plan

end Steward
