/-
A hypervisor in memory, for trying out passes. It allocates volumes the way real ones name them, changes
power at once or after some readings of the status, and can be told to fail, to take its time or to keep
silent.
-/
import Steward.Hypervisor.Json

namespace Steward

/-- How one call goes, whatever it is. -/
inductive Behaviour
  | hang
  /-- After some time the call fails, or takes effect. -/
  | proceed (delay : Duration) (failure : Option Failure)

structure Machine where
  node : String
  kind : Kind
  config : Dict Json
  running : Bool
  lock : Option String
  /-- After so many readings of the status the lock is gone. -/
  lockPolls : Nat
  /-- The power that is on its way, and after how many readings of the status it is there. -/
  pending : Option (Bool × Nat)

namespace Machine

/-- A machine after a reading of its status, before it is reported: power that was on its way. -/
def settlePower (m : Machine) : Machine :=
  match m.pending with
  | some (power, 0) => { m with running := power, pending := none }
  | some (power, n + 1) => { m with pending := some (power, n) }
  | none => m

/-- A machine after a reading of its status: its lock wears off. -/
def wearLock (m : Machine) : Machine :=
  { m with lockPolls := m.lockPolls - 1, lock := if m.lockPolls - 1 = 0 then none else m.lock }

def status (m : Machine) : Status := ⟨if m.running then .running else .stopped, m.lock⟩

end Machine

/-- The instances by their numbers, and how the calls go that are still to come. -/
structure Lab where
  machines : Dict Machine
  script : Dict (List Behaviour)
  /-- The last number that was given to a new instance. -/
  lastId : UInt32
  /-- How many readings of the status a change of power takes. -/
  lag : Nat
  /-- How many readings of the status the lock of a copy lasts. -/
  lockPolls : Nat

namespace Lab

def idKey (id : UInt32) : String := Text.decimal id.toNat

/-! ## Volumes -/

/-- The names of slots for drives, each followed by a number. -/
def slotNames : List String := ["ide", "sata", "scsi", "virtio", "efidisk", "tpmstate"]

def isDriveKey (key : String) : Bool :=
  key == rootSlot || slotNames.any fun name => ((Text.afterStart name key).bind fun n => Text.digits? n.toList).isSome

/-- How many volumes a configuration names. -/
def volumeCount (config : Dict Json) : Nat :=
  config.values.countP fun v =>
    match v with
    | .string s => Text.contains s "-disk-"
    | _ => false

/-- The text of a drive when the volume that it asks for has been allocated. -/
def allocated (id : UInt32) (config : Dict Json) (value : String) : String :=
  let p := PropertyString.ofText value
  match p.head.bind (Text.cut ':') with
  | none => value
  | some (store, rest) =>
    let volume := store ++ ":vm-" ++ Text.decimal id.toNat
    if rest = "cloudinit" then
      PropertyString.toText { p with head := some (volume ++ "-cloudinit") }
    else if (Text.digits? rest.toList).isSome then
      PropertyString.toText
        ⟨some (volume ++ "-disk-" ++ Text.decimal (volumeCount config)), p.pairs ++ [("size", rest ++ "G")]⟩
    else p.toText

/-- A configuration with a parameter set; a drive gets its volume. -/
def put (id : UInt32) (config : Dict Json) (key value : String) : Dict Json :=
  config.insert key (.string (if isDriveKey key then allocated id config value else value))

def putAll (id : UInt32) (config : Dict Json) (params : Dict String) : Dict Json :=
  params.entries.foldl (fun config (key, value) => put id config key value) config

/-- A drive's text on another store. -/
def moved (datastore value : String) : String :=
  let p := PropertyString.ofText value
  PropertyString.toText
    { p with head := p.head.map fun head =>
        match Text.cut ':' head with
        | some (_, path) => datastore ++ ":" ++ path
        | none => head }

/-- A drive's text with another size, if it says one. -/
def resized (sizeGib : UInt64) (value : String) : String :=
  let p := PropertyString.ofText value
  PropertyString.toText
    { p with pairs := p.pairs.map fun (key, value) =>
        (key, if key = "size" then Text.decimal sizeGib.toNat ++ "G" else value) }

/-- A configuration with the text of a parameter changed. -/
def editText (config : Dict Json) (key : String) (f : String → String) : Dict Json :=
  match config.get? key with
  | some (.string s) => config.insert key (.string (f s))
  | _ => config

/-! ## Machines -/

variable (lab : Lab)

/-- The machine of an identity: its number must be known, node and kind must agree. -/
def find? (id : Identity) : Option Machine :=
  (lab.machines.get? (idKey id.id)).filter fun m => m.node == id.node && m.kind == id.kind

def store (id : UInt32) (m : Machine) : Lab := { lab with machines := lab.machines.insert (idKey id) m }

/-- What comes of a change of one machine. -/
def onMachine {α : Type} (id : Identity) (f : Machine → α × Machine) : Except Failure α × Lab :=
  match lab.find? id with
  | none => (.error (.notFound id.toText), lab)
  | some m => (.ok (f m).1, lab.store id.id (f m).2)

def change (id : Identity) (f : Machine → Machine) : Except Failure Unit × Lab :=
  lab.onMachine id fun m => ((), f m)

/-- The number of a new instance: the one that is asked for, or the next one. -/
def newId (wanted : Option UInt32) : UInt32 × Lab :=
  match wanted with
  | some id => (id, lab)
  | none => (lab.lastId + 1, { lab with lastId := lab.lastId + 1 })

def create (node : String) (request : CreateRequest) : Except Failure UInt32 × Lab :=
  let (id, lab) := lab.newId request.id
  (.ok id, lab.store id
    { node := node
      kind := request.kind
      config := putAll id .empty request.params
      running := false
      lock := none
      lockPolls := 0
      pending := none })

def setText (config : Dict Json) (key : String) (value : Option String) : Dict Json :=
  value.elim config fun value => config.insert key (.string value)

/-- The configuration of a copy: volumes are named after their new owner. -/
def copied (source : Identity) (id : UInt32) (request : CloneRequest) (config : Dict Json) : Dict Json :=
  let owner (id : UInt32) := "vm-" ++ Text.decimal id.toNat ++ "-"
  let config := (config.erase "template").map fun v =>
    match v with
    | .string s => .string (Text.replace (owner source.id) (owner id) s)
    | v => v
  setText (setText config source.kind.nameKey request.name) "description" request.description

def clone (source : Identity) (request : CloneRequest) : Except Failure UInt32 × Lab :=
  match lab.find? source with
  | none => (.error (.notFound source.toText), lab)
  | some m =>
    let (id, lab) := lab.newId request.newId
    (.ok id, lab.store id
      { m with
        config := copied source id request m.config
        running := false
        lock := if 0 < lab.lockPolls then some "clone" else none
        lockPolls := lab.lockPolls
        pending := none })

def setPower (id : Identity) (on : Bool) : Except Failure Unit × Lab :=
  lab.change id fun m =>
    if lab.lag = 0 then { m with running := on } else { m with pending := some (on, lab.lag) }

/-- The effect of a call. -/
def effect : (call : Call) → Except Failure call.Answer × Lab
  | .create node request => lab.create node request
  | .clone source request _ => lab.clone source request
  | .configuration id => lab.onMachine id fun m => (m.config, m)
  | .status id => lab.onMachine id fun m => (m.settlePower.status, m.settlePower.wearLock)
  | .update id request => lab.change id fun m =>
    { m with config := putAll id.id (request.delete.foldl Dict.erase m.config) request.set }
  | .moveDisk id request => lab.change id fun m =>
    { m with config := editText m.config request.interface (moved request.datastore) }
  | .resizeDisk id request => lab.change id fun m =>
    { m with config := editText m.config request.interface (resized request.sizeGib) }
  | .migrate id request => lab.change id fun m => { m with node := request.node }
  | .start id _ | .reboot id _ => lab.setPower id true
  | .stop id _ | .shutdown id _ _ => lab.setPower id false

/-! ## Calls -/

/-- How the next call of a name goes, which is used up by it. -/
def nextBehaviour (name : String) : Behaviour × Lab :=
  match lab.script.get? name with
  | some (b :: rest) => (b, { lab with script := lab.script.insert name rest })
  | _ => (.proceed 0 none, lab)

end Lab

/-- Calls on the machines in memory. A call that is given up has no effect. -/
def Lab.hypervisor : Hypervisor Lab := fun call lab =>
  let (behaviour, lab) := lab.nextBehaviour call.name
  let reaction := match behaviour with
    | .hang => .silent
    | .proceed delay (some failure) => .answered delay (.error failure) lab
    | .proceed delay none => .answered delay (lab.effect call).1 (lab.effect call).2
  ⟨reaction, fun _ => lab⟩

namespace Lab

variable (lab : Lab)

/-- More behaviours for calls of a name, after those that are still to come. -/
def enqueue (name : String) (behaviours : List Behaviour) : Lab :=
  { lab with script := lab.script.insert name ((lab.script.get? name).getD [] ++ behaviours) }

/-- What is changed of a machine behind the back of its users. -/
structure Edit where
  delete : List String
  set : Dict Json
  running : Option Bool
  node : Option String

def edit (id : UInt32) (e : Edit) : Lab :=
  match lab.machines.get? (idKey id) with
  | none => lab
  | some m =>
    lab.store id
      { m with
        config := e.set.entries.foldl (fun config (key, value) => config.insert key value)
          (e.delete.foldl Dict.erase m.config)
        running := e.running.getD m.running
        node := e.node.getD m.node }

/-- The lab without a machine, and whether there was one. -/
def remove (id : UInt32) : Bool × Lab :=
  (lab.machines.contains (idKey id), { lab with machines := lab.machines.erase (idKey id) })

end Lab

end Steward
