/-
Unsigned numbers in text: digits of ASCII, an optional plus sign in front, nothing else. A number
too large for its type is no number of that type.
-/
namespace Steward.Text

/-- The value of a digit of ASCII. -/
def digitValue? (c : Char) : Option Nat := if c.isDigit then some (c.toNat - '0'.toNat) else none

/-- The number that digits write after the digits of `acc`; `none` at anything else. -/
def digitsFrom (acc : Nat) : List Char → Option Nat
  | [] => some acc
  | c :: r => (digitValue? c).bind fun d => digitsFrom (10 * acc + d) r

/-- The number that one or more digits write. -/
def digits? : List Char → Option Nat
  | [] => none
  | s => digitsFrom 0 s

def unsigned? : List Char → Option Nat
  | '+' :: r => digits? r
  | s => digits? s

/-- An unsigned number below `limit`. -/
def unsignedBelow? (limit : Nat) (s : String) : Option Nat :=
  (unsigned? s.toList).filter (· < limit)

def uint16? (s : String) : Option UInt16 := (unsignedBelow? UInt16.size s).map UInt16.ofNat

def uint32? (s : String) : Option UInt32 := (unsignedBelow? UInt32.size s).map UInt32.ofNat

/-- The digits of a number. -/
def decimal (n : Nat) : String := String.ofList (Nat.toDigits 10 n)

end Steward.Text
