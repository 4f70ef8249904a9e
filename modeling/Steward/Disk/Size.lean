/-
Sizes in text: a number with an optional suffix K, M, G or T, in powers of 1024. The number is read as
binary floating point, and what it says is rounded up to whole bytes, at most `2 ^ 64 - 1` of them.
-/
import Steward.Binary64.Decimal
import Steward.Text.Blank

namespace Steward

def bytesPerGib : Nat := 2 ^ 30

/-- The factor of a suffix. -/
def sizeFactor? (c : Char) : Option Nat :=
  match c.toUpper with
  | 'K' => some (2 ^ 10)
  | 'M' => some (2 ^ 20)
  | 'G' => some (2 ^ 30)
  | 'T' => some (2 ^ 40)
  | _ => none

/-- A size split into its number and its factor; without a letter at its end it counts bytes. -/
def sizeParts? (s : List Char) : Option (List Char × Nat) :=
  match s.getLast? with
  | some c => if c.isAlpha then (sizeFactor? c).map fun k => (s.dropLast, k) else some (s, 1)
  | none => some (s, 1)

def diskBytes? (s : String) : Option UInt64 := do
  let (number, factor) ← sizeParts? (Text.trim s.toList)
  let x ← Binary64.ofText? (String.ofList number)
  let n ← x.ceilTimes (2 ^ 64 - 1) factor
  some (UInt64.ofNat n)

/-- The least number of GiB that holds some bytes. -/
def gibOfBytes (bytes : UInt64) : UInt64 := UInt64.ofNat ((bytes.toNat + (bytesPerGib - 1)) / bytesPerGib)

end Steward
