/-
Options on a command line. One with a value is written `--name value` or `--name=value`, one with a
letter also `-x value`, `-xvalue` and `-x=value`; flags with letters may share a dash. A value that
stands by itself does not start with a dash, unless it is nothing else. No option is given twice, and
nothing but options is taken; a final `--` is allowed. Words are read from the left, so that the first
mistake counts, and `help` ends the reading.
-/
import Steward.Dict
import Steward.Text.Split

namespace Steward

inductive UsageError
  | unexpected (word : String)
  | repeated (option : String)
  | valueMissing (option : String)
  | valueUnwanted (option : String)
  | unfit (option value : String)
  | required (option : String)
  | commandMissing
  | unknownCommand (name : String)
  deriving DecidableEq, Repr

def UsageError.message : UsageError → String
  | unexpected word => "unexpected argument: " ++ word
  | repeated option => "given more than once: --" ++ option
  | valueMissing option => "a value is missing for --" ++ option
  | valueUnwanted option => "no value is allowed for --" ++ option
  | unfit option value => "invalid value for --" ++ option ++ ": " ++ value
  | required option => "missing option: --" ++ option
  | commandMissing => "a command is required"
  | unknownCommand name => "unrecognized command: " ++ name

/-- What comes with an option. -/
inductive OptionKind
  | flag
  /-- A value, which must satisfy `fits`. -/
  | value (fits : String → Bool)

/-- An option that a command has. -/
structure OptionForm where
  name : String
  letter : Option Char
  kind : OptionKind

/-- The option that asks for help. -/
def OptionForm.help : OptionForm := ⟨"help", some 'h', .flag⟩

/-- The options that are given. -/
structure GivenOptions where
  flags : NameSet
  values : Dict String

namespace GivenOptions

def empty : GivenOptions := ⟨.empty, .empty⟩

def hasFlag (g : GivenOptions) (name : String) : Bool := g.flags.contains name

def wantsHelp (g : GivenOptions) : Bool := g.hasFlag OptionForm.help.name

/-- The value of an option that must be given. -/
def needed (g : GivenOptions) (name : String) : Except UsageError String :=
  match g.values.get? name with
  | some value => .ok value
  | none => .error (.required name)

def addFlag (g : GivenOptions) (name : String) : Except UsageError GivenOptions :=
  if g.hasFlag name then .error (.repeated name) else .ok { g with flags := g.flags.insert name () }

def addValue (g : GivenOptions) (name : String) (fits : String → Bool) (value : String) :
    Except UsageError GivenOptions :=
  if g.values.contains name then .error (.repeated name)
  else if fits value then .ok { g with values := g.values.insert name value }
  else .error (.unfit name value)

end GivenOptions

/-- A value that is still to come: of which option, and what it must satisfy. -/
abbrev Awaited := Option (String × (String → Bool))

/-- What a word that starts with two dashes adds; `text` stands after them. -/
def readLong (forms : List OptionForm) (g : GivenOptions) (word : String) (text : List Char) :
    Except UsageError (GivenOptions × Awaited) := do
  let (name, value) := match Text.cutAt '=' text with
    | some (name, value) => (String.ofList name, some (String.ofList value))
    | none => (String.ofList text, none)
  match forms.find? fun f => f.name == name with
  | none => .error (.unexpected word)
  | some form =>
    match form.kind, value with
    | .flag, none => do .ok (← g.addFlag form.name, none)
    | .flag, some _ => .error (.valueUnwanted form.name)
    | .value fits, some value => do .ok (← g.addValue form.name fits value, none)
    | .value fits, none => .ok (g, some (form.name, fits))

/-- What letters after one dash add. The first one with a value takes all that follows. -/
def readLetters (forms : List OptionForm) (g : GivenOptions) (word : String) :
    List Char → Except UsageError (GivenOptions × Awaited)
  | [] => .ok (g, none)
  | c :: rest => do
    match forms.find? fun f => f.letter == some c with
    | none => .error (.unexpected word)
    | some form =>
      match form.kind, rest with
      | .flag, _ =>
        let g ← g.addFlag form.name
        if g.wantsHelp then .ok (g, none) else readLetters forms g word rest
      | .value fits, [] => .ok (g, some (form.name, fits))
      | .value fits, '=' :: value => do .ok (← g.addValue form.name fits (String.ofList value), none)
      | .value fits, value => do .ok (← g.addValue form.name fits (String.ofList value), none)

/-- Whether a word that stands by itself can be a value. -/
def isPlainWord (word : String) : Bool := word == "-" || !Text.startsWith word "-"

def readOptionsFrom (forms : List OptionForm) (g : GivenOptions) (awaited : Awaited) :
    (words : List String) → Except UsageError GivenOptions
  | [] =>
    match awaited with
    | none => .ok g
    | some (name, _) => .error (.valueMissing name)
  | word :: rest =>
    match awaited with
    | some (name, fits) =>
      if isPlainWord word then do readOptionsFrom forms (← g.addValue name fits word) none rest
      else .error (.valueMissing name)
    | none =>
      if isPlainWord word then .error (.unexpected word)
      else if word = "--" then
        match rest with
        | [] => .ok g
        | next :: _ => .error (.unexpected next)
      else do
        let (g, awaited) ←
          match word.toList with
          | '-' :: '-' :: text => readLong forms g word text
          | letters => readLetters forms g word letters.tail
        if g.wantsHelp then .ok g else readOptionsFrom forms g awaited rest

/-- The options that words give, of some forms and `help`. -/
def readOptions (forms : List OptionForm) (words : List String) : Except UsageError GivenOptions :=
  readOptionsFrom (.help :: forms) .empty none words

end Steward
