/-
Typed reading of values. Whole numbers must be written as such and fit their type, flags and texts are
strict, and a missing field is told from one that is null: `optional` takes either for nothing,
`defaulted` takes only a missing one.
-/
import Steward.Json

namespace Steward

namespace Json

def flag? : Json → Option Bool
  | .bool b => some b
  | _ => none

def text? : Json → Option String
  | .string s => some s
  | _ => none

def natural? (limit : Nat) : Json → Option Nat
  | .number (.natural n) => if n.toNat < limit then some n.toNat else none
  | _ => none

def uint16? (j : Json) : Option UInt16 := (j.natural? UInt16.size).map UInt16.ofNat

def uint32? (j : Json) : Option UInt32 := (j.natural? UInt32.size).map UInt32.ofNat

def uint64? : Json → Option UInt64
  | .number (.natural n) => some n
  | _ => none

def binary64? : Json → Option Binary64
  | .number n => some n.toBinary64
  | _ => none

/-- Every item of a list read by `read`. -/
def list? {α : Type} (read : Json → Option α) : Json → Option (List α)
  | .array items => items.mapM read
  | _ => none

/-- Nothing, or a value read by `read`. -/
def orNull? {α : Type} (read : Json → Option α) : Json → Option (Option α)
  | .null => some none
  | j => (read j).map some

/-- A record by its members. -/
def members? : Json → Option (List (String × Json))
  | .object members => some members
  | _ => none

/-- A record in which no member of the given names stands twice; a list gives the first of them in
their order. -/
def record? (names : List String) : Json → Option (List (String × Json))
  | .object members =>
    if names.all fun name => decide ((members.filter fun m => m.1 == name).length ≤ 1) then some members
    else none
  | .array items => if items.length ≤ names.length then some (names.zip items) else none
  | _ => none

/-- A record of which a list must give all members. -/
def completeRecord? (names : List String) (j : Json) : Option (List (String × Json)) :=
  (record? names j).filter fun members =>
    match j with
    | .array _ => members.length == names.length
    | _ => true

/-- No member has a name other than the given ones. -/
def onlyNamed (names : List String) (members : List (String × Json)) : Bool :=
  members.all fun m => names.contains m.1

/-- A record that has members of the given names only, each at most once. -/
def closedRecord? (names : List String) (j : Json) : Option (List (String × Json)) :=
  (record? names j).filter (onlyNamed names)

/-- A closed record of which a list must give all members. -/
def completeClosedRecord? (names : List String) (j : Json) : Option (List (String × Json)) :=
  (completeRecord? names j).filter (onlyNamed names)

/-- The value of a field that must be there. -/
def required? {α : Type} (members : List (String × Json)) (name : String) (read : Json → Option α) : Option α :=
  (member? members name).bind read

/-- The value of a field that may be missing or null. -/
def optional? {α : Type} (members : List (String × Json)) (name : String) (read : Json → Option α) :
    Option (Option α) :=
  match member? members name with
  | none => some none
  | some j => orNull? read j

/-- The value of a field that may be missing. -/
def defaulted? {α : Type} (members : List (String × Json)) (name : String) (read : Json → Option α)
    (default : α) : Option α :=
  match member? members name with
  | none => some default
  | some j => read j

end Json

/-- The entries of a record, each read by `read`. -/
def Dict.ofJson? {α : Type} (read : Json → Option α) (j : Json) : Option (Dict α) := do
  let r ← j.members?
  (r.mapM fun m => (read m.2).map fun a => (m.1, a)).map Dict.ofList

end Steward
