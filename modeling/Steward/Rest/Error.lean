/-
What goes wrong between this program and the hypervisor's web interface, and which failure of a pass
follows from it. A missing instance is reported either with status 404 or with status 500 and a message
that something does not exist.
-/
import Steward.Failure
import Steward.Json.Reader
import Steward.Text.Blank

namespace Steward

inductive RestError
  /-- No connection: this may pass. -/
  | unreachable
  /-- A connection without an answer. -/
  | dropped
  | notFound (message : String)
  | status (code : UInt16) (message : String)
  | taskFailed (task exit : String)
  | unexpected (what : String)
  /-- An answer that is no JSON, or not of the form that was expected. -/
  | malformed
  | configuration (why : String)
  deriving DecidableEq, Repr

/-- What is wrong with one parameter, by its name. -/
def parameterText (name : String) (why : Json) : String :=
  name ++ ": " ++ Text.trimmed (match why with | .string s => s | j => j.toText)

/-- The message of an answer, and what it says of single parameters. -/
def errorParts (members : List (String × Json)) : List String :=
  (match Json.member? members "message" with
    | some (.string s) => [Text.trimmed s]
    | _ => []) ++
  match Json.member? members "errors" with
  | some (.object errors) => errors.map fun (name, why) => parameterText name why
  | _ => []

/-- What the body of an error answer says: its message and errors, or else all of it. -/
def errorText (body : String) : String :=
  match (Json.ofText? .scaled body).map Json.normal with
  | some (.object members) =>
    match errorParts members with
    | [] => Text.trimmed body
    | parts => Text.join ", " parts
  | _ => Text.trimmed body

namespace RestError

/-- The error that an answer reports which is no success. -/
def ofStatus (code : UInt16) (body : String) : RestError :=
  let message := errorText body
  if code = 404 ∨ (code = 500 ∧ Text.contains message "does not exist") then notFound message
  else status code message

/-- Whether trying again may help. -/
def isTransient : RestError → Bool
  | unreachable => true
  | status code _ => 500 ≤ code
  | _ => false

def message : RestError → String
  | unreachable => "HTTP request failed: no connection"
  | dropped => "HTTP request failed: no answer"
  | notFound message => "Resource does not exist: " ++ message
  | status code message => "API error (HTTP " ++ Text.decimal code.toNat ++ "): " ++ message
  | taskFailed task exit => "Task " ++ task ++ " failed: " ++ exit
  | unexpected what => "Unexpected response: " ++ what
  | malformed => "JSON parse error: not what was expected"
  | configuration why => "Invalid client configuration: " ++ why

def toFailure (e : RestError) : Failure :=
  if e.isTransient then .transient e.message
  else
    match e with
    | notFound message => .notFound message
    | configuration why => .configuration why
    | e => .api e.message

end RestError

end Steward
