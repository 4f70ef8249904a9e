/-
Property strings, the notation of most device parameters: parts between commas, of which the first may
be a bare word (the head, `local-lvm:vm-100-disk-0`) and the others are pairs `key=value`.
-/
import Steward.Text.Split

namespace Steward

structure PropertyString where
  head : Option String
  pairs : List (String × String)
  deriving DecidableEq, Repr

namespace PropertyString

/-- The parts of a text: what stands between commas, without blanks around it, and not empty. -/
def parts (s : List Char) : List (List Char) :=
  ((Text.splitWhere (· == ',') s).map Text.trim).filter (fun part => !part.isEmpty)

/-- A bare word counts only as the first part; a later one is passed over. -/
def head? : List (List Char) → Option (List Char)
  | [] => none
  | part :: _ => if (Text.cutAt '=' part).isNone then some part else none

def ofChars (s : List Char) : PropertyString where
  head := (head? (parts s)).map String.ofList
  pairs := (parts s).filterMap fun part =>
    (Text.cutAt '=' part).map fun (key, value) => (String.ofList key, String.ofList value)

/-- The property string that a text writes; every text writes one. -/
def ofText (s : String) : PropertyString := ofChars s.toList

def toText (p : PropertyString) : String :=
  Text.join "," (p.head.toList ++ p.pairs.map fun (key, value) => key ++ "=" ++ value)

/-- The value of the first pair with a key. -/
def get? (p : PropertyString) (key : String) : Option String :=
  (p.pairs.find? fun pair => pair.1 == key).map (·.2)

/-- One pair, or none without a value. -/
def optional (key : String) (value : Option String) : List (String × String) :=
  value.toList.map fun value => (key, value)

/-- The pair `key=1` where the flag is set. -/
def flag (key : String) (set : Bool) : List (String × String) := if set then [(key, "1")] else []

end PropertyString

/-- The words that mean yes. -/
def isTrueWord (s : String) : Bool :=
  let word := (Text.trim s.toList).map Char.toLower
  word == "1".toList || word == "true".toList || word == "on".toList || word == "yes".toList

/-- The digit of a truth value. -/
def flagDigit (b : Bool) : String := if b then "1" else "0"

end Steward
