/-
Commands carried out: settings first, then the document, then the hypervisor behind its web interface.
The wire after a run tells which requests were made.
-/
import Steward.Command
import Steward.Command.Output
import Steward.Rest.Client
import Steward.UserSettings.Environment

namespace Steward

open Rest (Client Wire)

def versionText : String := "pveflow 0.3.0"

def helpLines : List String :=
  ["Declarative Proxmox VE instances, reconciled.", "",
    "plan --file FILE [--clone-provenance]   show the changes an apply would make",
    "apply --file FILE                       create the instance or bring it to the declared state",
    "show --node NODE --id ID [--container]  print the observed configuration of an instance",
    "version                                 show version information"]

namespace UserSettings

/-- The instance that a file declares. -/
def desired (s : UserSettings) (env : Environment) (file : String) : Except CommandError Desired := do
  let text ← (env.read file).mapError (.unreadable file)
  match env.reader.document text with
  | none => .error (.unparsable file)
  | some document => (document.desired s.policy).mapError (.invalid file)

/-- The client that settings describe: it tries three times, and asks for tasks every second. -/
def client (s : UserSettings) : Except CommandError Client := do
  let endpoint ← s.access.neededEndpoint.mapError .settings
  let token ← s.access.neededToken.mapError .settings
  (Client.create endpoint token {} (.seconds 1)).mapError .client

def reconciler (s : UserSettings) (client : Client) : Reconciler Wire := ⟨client.hypervisor, s.timeouts, s.interval⟩

end UserSettings

namespace Environment

variable (env : Environment)

def settings : Except CommandError UserSettings := (UserSettings.load env).mapError .settings

/-- The instance that a file declares, and who can bring it about. -/
def declared (file : String) : Except CommandError (Desired × Reconciler Wire) := do
  let settings ← env.settings
  let desired ← settings.desired env file
  .ok (desired, settings.reconciler (← settings.client))

end Environment

/-- Steps from the first moment of the clock on. -/
def overWire {α : Type} (steps : Steps (World Wire) Failure α) (wire : Wire) : Except CommandError α × Wire :=
  match steps none ⟨wire, []⟩ 0 with
  | .done result world _ => (result.mapError .failure, world.remote)
  | .panicked world _ => (.error .panicked, world.remote)
  | .cut world => (.error .unanswered, world.remote)

/-- What is printed of a result, or of the error instead, after lines printed already. -/
def printed {α : Type} (before : List String) (output : α → Printed) : Except CommandError α → Printed
  | .ok a => output a
  | .error e => .givenUp before e

namespace Command

def runPlan (desired : Desired) (reconciler : Reconciler Wire) (copied : Bool) (wire : Wire) : Printed × Wire :=
  match desired.id with
  | none => (.success ["No vm_id given: a new instance would be created."], wire)
  | some n =>
    let id := desired.identity n
    let (result, wire) := overWire (reconciler.plan desired id (copied || desired.clone.isSome)) wire
    (printed ["Planning " ++ id.toText] (plannedOutput id) result, wire)

def runApply (desired : Desired) (reconciler : Reconciler Wire) (wire : Wire) : Printed × Wire :=
  let (result, wire) := overWire (reconciler.apply desired) wire
  (printed ["Applying..."] Report.output result, wire)

def runInspect (id : Identity) (reconciler : Reconciler Wire) (wire : Wire) : Printed × Wire :=
  let (result, wire) := overWire (reconciler.read id) wire
  (printed [] Observed.output result, wire)

/-- What a command prints, and the wire after it. -/
def run (env : Environment) (command : Command) (wire : Wire) : Printed × Wire :=
  match command with
  | version => (.success [versionText], wire)
  | help => (.success helpLines, wire)
  | plan file copied =>
    match env.declared file with
    | .ok (desired, reconciler) => runPlan desired reconciler copied wire
    | .error e => (.givenUp [] e, wire)
  | apply file =>
    match env.declared file with
    | .ok (desired, reconciler) => runApply desired reconciler wire
    | .error e => (.givenUp [] e, wire)
  | inspect id =>
    match env.settings.bind fun s => s.client.map s.reconciler with
    | .ok reconciler => runInspect id reconciler wire
    | .error e => (.givenUp [] e, wire)

end Command

/-- A whole run of the program: what words ask for is done, unless they are no command. -/
def runWords (env : Environment) (words : List String) (wire : Wire) : Printed × Wire :=
  match Command.ofWords words with
  | .ok command => command.run env wire
  | .error e => (⟨"", linesText ["error: " ++ e.message], 2⟩, wire)

end Steward
