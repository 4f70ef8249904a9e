/-
What the program can be asked to do, and how a command line asks for it.
-/
import Steward.Command.Options
import Steward.Instance
import Steward.Text.Unsigned

namespace Steward

inductive Command
  /-- Tell what applying a document would change; `copied` keeps what the instance inherited. -/
  | plan (file : String) (copied : Bool)
  | apply (file : String)
  /-- Print what an instance is like. -/
  | inspect (id : Identity)
  | version
  | help
  deriving DecidableEq, Repr

namespace Command

/-- The number of an instance: a sign may stand in front, a minus of zero only. -/
def idOfText? (s : String) : Option UInt32 :=
  match s.toList with
  | '-' :: digits => (Text.digits? digits).bind fun n => if n = 0 then some 0 else none
  | _ => Text.uint32? s

def fileForm : OptionForm := ⟨"file", some 'f', .value fun s => !s.isEmpty⟩

def copiedForm : OptionForm := ⟨"clone-provenance", none, .flag⟩

def nodeForm : OptionForm := ⟨"node", none, .value fun _ => true⟩

def idForm : OptionForm := ⟨"id", none, .value fun s => (idOfText? s).isSome⟩

def containerForm : OptionForm := ⟨"container", none, .flag⟩

/-- The command that options make up, or help where they ask for it. -/
def withOptions (forms : List OptionForm) (words : List String)
    (command : GivenOptions → Except UsageError Command) : Except UsageError Command := do
  let g ← readOptions forms words
  if g.wantsHelp then .ok help else command g

def planOf (g : GivenOptions) : Except UsageError Command := do
  .ok (plan (← g.needed fileForm.name) (g.hasFlag copiedForm.name))

def applyOf (g : GivenOptions) : Except UsageError Command := do
  .ok (apply (← g.needed fileForm.name))

def inspectOf (g : GivenOptions) : Except UsageError Command := do
  let node ← g.needed nodeForm.name
  let id ← g.needed idForm.name
  match idOfText? id with
  | some n => .ok (inspect ⟨node, n, if g.hasFlag containerForm.name then .container else .vm⟩)
  | none => .error (.unfit idForm.name id)

/-- The commands by their names. -/
def names : List String := ["plan", "apply", "show", "version", "help"]

/-- Help on the program or on one command of it. -/
def helpOf : (words : List String) → Except UsageError Command
  | [] => .ok help
  | [name] => if names.contains name then .ok help else .error (.unknownCommand name)
  | _ :: name :: _ => .error (.unknownCommand name)

/-- The command that words ask for. -/
def ofWords : (words : List String) → Except UsageError Command
  | [] => .error .commandMissing
  | "plan" :: words => withOptions [fileForm, copiedForm] words planOf
  | "apply" :: words => withOptions [fileForm] words applyOf
  | "show" :: words => withOptions [nodeForm, idForm, containerForm] words inspectOf
  | "version" :: words => withOptions [] words fun _ => .ok version
  | "help" :: words => helpOf words
  | "--help" :: _ => .ok help
  | name :: _ =>
    if Text.startsWith name "-h" then .ok help else .error (.unknownCommand name)

end Command

end Steward
