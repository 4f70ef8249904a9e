/-
Failures and faults in the data format: their kind and what they say.
-/
import Steward.Failure
import Steward.Json.Fields

namespace Steward

open Json

def errorJson (kind message : String) : Json := .object [("error", .string kind), ("message", .string message)]

def Fault.kindName : Fault → String
  | unknownInterface _ => "InvalidInterface"
  | repeatedInterface _ => "DuplicateInterface"
  | malformed .. => "InvalidValue"
  | _ => "Configuration"

def Fault.toJson (f : Fault) : Json := errorJson f.kindName f.message

namespace Failure

def kindName : Failure → String
  | configuration _ => "Configuration"
  | notFound _ => "NotFound"
  | ownership .. => "Ownership"
  | unsupported _ => "UnsupportedOperation"
  | transient _ => "TransientApi"
  | api _ => "Api"
  | timeout _ => "Timeout"
  | several _ => "Multiple"

def toJson (f : Failure) : Json := errorJson f.kindName f.message

def listJson (fs : List Failure) : Json := .array (fs.map toJson)

/-- A failure of one kind, from what it is about. -/
def single? (r : List (String × Json)) : Option Failure := do
  let text := required? r "message" text?
  match ← required? r "kind" text? with
  | "Configuration" => text.map configuration
  | "NotFound" => text.map notFound
  | "Ownership" =>
    some (ownership (← required? r "action" text?) (← required? r "volume" text?) (← required? r "vm_id" uint32?))
  | "UnsupportedOperation" => text.map unsupported
  | "TransientApi" => text.map transient
  | "Api" => text.map api
  | "Timeout" => text.map timeout
  | _ => none

mutual

/-- A failure, gathered ones included. -/
def ofJson? : Json → Option Failure
  | .object members => (ofMembers? members).bind fun parts =>
    if member? members "kind" |>.any (fun k => k.text? == some "Multiple") then parts.map several
    else single? members
  | _ => none

/-- The failures that the last member named `errors` lists, if there is one; `none` if it lists anything
else. -/
def ofMembers? : List (String × Json) → Option (Option (List Failure))
  | [] => some none
  | (name, value) :: rest =>
    match ofMembers? rest with
    | some none => if name = "errors" then (ofItems? value).map some else some none
    | r => r

def ofItems? : Json → Option (List Failure)
  | .array items => ofList? items
  | _ => none

def ofList? : List Json → Option (List Failure)
  | [] => some []
  | j :: rest => (ofJson? j).bind fun f => (ofList? rest).map fun fs => f :: fs

end

end Failure

end Steward
