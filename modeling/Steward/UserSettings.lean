/-
What the user has set up once for all instances: how the hypervisor is reached, how long calls may take
and what is declared where a document says nothing. It is read from a file, over which variables of the
environment count.
-/
import Steward.Files
import Steward.Json.Plain
import Steward.Policy
import Steward.Text.Quoted
import Steward.Timeouts

namespace Steward

inductive SettingsError
  | fileNotFound
  | unreadable (why : FileFault)
  | unparsable (path : String)
  | missing (name : String)
  | invalidVariable (name value : String)
  deriving DecidableEq, Repr

namespace SettingsError

def message : SettingsError → String
  | fileNotFound =>
    "Settings file not found. Looked in:\n- $PVEFLOW_CONFIG_PATH\n" ++
      "- current directory: pveflow.local.yaml, pveflow.yaml\n- ~/.config/pveflow/config.yaml"
  | unreadable why => "IO error: " ++ why.message
  | unparsable path => "Failed to parse " ++ path ++ ": no settings"
  | missing name => "Missing setting `" ++ name ++ "`"
  | invalidVariable name value => "Invalid value for " ++ name ++ ": " ++ Text.quoted value

/-- What lies behind an error. -/
def cause? : SettingsError → Option String
  | unreadable why => some why.message
  | unparsable _ => some "no settings"
  | _ => none

end SettingsError

/-- How the hypervisor is reached. -/
structure Access where
  endpoint : Option String := none
  token : Option String := none
  /-- Whether any certificate is accepted. -/
  insecure : Bool := false
  deriving DecidableEq, Repr

structure UserSettings where
  access : Access := {}
  timeouts : Timeouts := {}
  /-- Milliseconds between two readings of a status. -/
  pollMilliseconds : UInt64 := 1000
  policy : Policy := {}
  deriving DecidableEq, Repr

namespace Access

open Json

/-- A setting that must be there and not be empty. -/
def needed (name : String) (value : Option String) : Except SettingsError String :=
  match value with
  | some s => if s.isEmpty then .error (.missing name) else .ok s
  | none => .error (.missing name)

def neededEndpoint (a : Access) : Except SettingsError String := needed "api.endpoint" a.endpoint

def neededToken (a : Access) : Except SettingsError String := needed "api.api_token" a.token

def ofJson? (j : Json) : Option Access := do
  let r ← record? ["endpoint", "api_token", "insecure"] j
  some
    { endpoint := ← optional? r "endpoint" plainText?
      token := ← optional? r "api_token" plainText?
      insecure := ← defaulted? r "insecure" flag? false }

def toJson (a : Access) : Json :=
  .object [("endpoint", ofOption .string a.endpoint), ("api_token", ofOption .string a.token),
    ("insecure", .bool a.insecure)]

end Access

/-- A length of time in whole seconds. -/
def Duration.ofSeconds? (j : Json) : Option Duration := j.uint64?.map fun n => Duration.seconds n.toNat

namespace UserSettings

open Json

def ofJson? (j : Json) : Option UserSettings := do
  let r ← record? ["api", "timeouts", "poll_interval_ms", "defaults"] j
  some
    { access := ← defaulted? r "api" Access.ofJson? {}
      timeouts := ← defaulted? r "timeouts" (Timeouts.ofJson? Duration.ofSeconds?) {}
      pollMilliseconds := ← defaulted? r "poll_interval_ms" uint64? 1000
      policy := ← defaulted? r "defaults" (Policy.ofJson? plainText?) {} }

def toJson (s : UserSettings) : Json :=
  .object
    [("api", s.access.toJson),
      ("timeouts", .object (Timeouts.fieldNames.zip (s.timeouts.toList.map fun d => .ofNat d.wholeSeconds))),
      ("poll_interval_ms", .number (.natural s.pollMilliseconds)), ("defaults", s.policy.toJson)]

/-- The time between two readings of a status: it cannot be nothing. -/
def interval (s : UserSettings) : Duration := .milliseconds (max 1 s.pollMilliseconds.toNat)

end UserSettings

end Steward
