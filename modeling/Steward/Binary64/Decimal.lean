/-
Decimal notation of binary floating point. Reading rounds once, exactly: the value nearest to the
number written. Writing selects the shortest decimal that reads back to the same value.
-/
import Steward.Binary64
import Steward.Text.Unsigned

namespace Steward

/-- `digits * 10 ^ exponent` -/
structure Decimal where
  digits : Nat
  exponent : Int
  deriving DecidableEq, Repr

/-- How many decimal digits a number has. -/
def digitCount (n : Nat) : Nat := (Nat.toDigits 10 n).length

namespace Binary64

/-- The value nearest to a decimal. A decimal with its leading digit at `10 ^ 309` or above is infinite
and one below `10 ^ -324` is zero; between them the numbers stay small enough to compute with. -/
def ofDecimal (negative : Bool) (d : Decimal) : Binary64 :=
  let lead := (digitCount d.digits : Int) + d.exponent
  if d.digits = 0 ∨ lead ≤ -324 then zero negative
  else if 310 ≤ lead then infinite negative
  else round negative (d.digits * 10 ^ d.exponent.toNat) (10 ^ (-d.exponent).toNat)

/-- The digits at the front of a text, as the number they write and how many they are, and the rest. -/
def takeDigits : List Char → Nat × Nat × List Char
  | s => ((s.takeWhile Char.isDigit).foldl (fun n c => 10 * n + (c.toNat - '0'.toNat)) 0,
      (s.takeWhile Char.isDigit).length, s.dropWhile Char.isDigit)

/-- Digits with at most one point among them, and what follows. -/
def takeMantissa (s : List Char) : Option (Decimal × List Char) :=
  let (whole, n, rest) := takeDigits s
  match rest with
  | '.' :: rest =>
    let (fraction, k, rest) := takeDigits rest
    if n + k = 0 then none else some (⟨whole * 10 ^ k + fraction, -k⟩, rest)
  | rest => if n = 0 then none else some (⟨whole, 0⟩, rest)

/-- The exponent that a text consists of: nothing, or `e`, an optional sign and digits. -/
def exponent? : List Char → Option Int
  | [] => some 0
  | c :: s =>
    if c = 'e' ∨ c = 'E' then
      match s with
      | '-' :: s => (Text.digits? s).map fun n => -(n : Int)
      | '+' :: s => (Text.digits? s).map Int.ofNat
      | s => (Text.digits? s).map Int.ofNat
    else none

/-- A value without its sign: digits with an optional point and an optional exponent, or the name of
what is no number, in any case. -/
def unsigned? (negative : Bool) (s : List Char) : Option Binary64 :=
  let name := s.map Char.toLower
  if name = "inf".toList ∨ name = "infinity".toList then some (infinite negative)
  else if name = "nan".toList then some nan
  else
    (takeMantissa s).bind fun (d, rest) =>
      (exponent? rest).map fun e => ofDecimal negative ⟨d.digits, d.exponent + e⟩

/-- The value that a text writes, with an optional sign in front. -/
def ofText? (s : String) : Option Binary64 :=
  match s.toList with
  | '-' :: s => unsigned? true s
  | '+' :: s => unsigned? false s
  | s => unsigned? false s

/-- Which of two equally close decimals is taken. -/
inductive Tie
  | even
  | up
  deriving DecidableEq

/-- Whether a decimal lies among the numbers that round to `m * 2 ^ p / 2 ^ 1074`: between the halfway
points to the neighbours, these included iff `m` is even. Below a power of two the gap is half as wide. -/
def readsBack (m p : Nat) (d : Decimal) : Bool :=
  let below := if m = 2 ^ 52 ∧ p ≠ 0 then 4 * m - 1 else 4 * m - 2
  let above := 4 * m + 2
  let x := d.digits * 10 ^ d.exponent.toNat * (4 * unit)
  let scale := 2 ^ p * 10 ^ (-d.exponent).toNat
  let even := m % 2 == 0
  (decide (below * scale < x) || even && below * scale == x) &&
    (decide (x < above * scale) || even && x == above * scale)

/-- The decimal with the digit of `10 ^ exponent` as its last that stands for a value best: of the two
neighbours of the value on that grid those that read back, of two the closer one. -/
def onGrid? (tie : Tie) (m p : Nat) (exponent : Int) : Option Decimal :=
  let num := scaled m p * 10 ^ (-exponent).toNat
  let den := unit * 10 ^ exponent.toNat
  let low := num / den
  let rest := num % den
  let first : Decimal := ⟨low, exponent⟩
  let second : Decimal := ⟨low + 1, exponent⟩
  -- the second is the closer one, or taken of two equally close ones
  let up := den < 2 * rest || 2 * rest == den && (tie == .up || low % 2 == 1)
  if readsBack m p second && (up || !readsBack m p first) then some second
  else if readsBack m p first then some first
  else none

/-- The least `k` with the value below `10 ^ k`. -/
def scale (m p : Nat) : Int :=
  let n := scaled m p
  if unit ≤ n then digitCount (n / unit) else 1 - digitCount (unit / n)

/-- Zeros at the end of the digits moved into the exponent, at most `fuel` of them. -/
def stripZeros : Nat → Decimal → Decimal
  | 0, d => d
  | fuel + 1, d =>
    if d.digits ≠ 0 ∧ d.digits % 10 = 0 then stripZeros fuel ⟨d.digits / 10, d.exponent + 1⟩ else d

/-- The shortest decimal that reads back to a value other than zero. -/
def shortest (tie : Tie) (m p : Nat) : Decimal :=
  let k := scale m p
  let found := (List.range 17).findSome? fun n => onGrid? tie m p (k - (n + 1 : Nat))
  let d := found.getD ⟨scaled m p * 5 ^ 1074, -1074⟩
  stripZeros (digitCount d.digits) d

/-- A decimal without an exponent: a point only where there is a fraction. -/
def positional (d : Decimal) : String :=
  let digits := Nat.toDigits 10 d.digits
  if 0 ≤ d.exponent then String.ofList (digits ++ List.replicate d.exponent.toNat '0')
  else
    let places := (-d.exponent).toNat
    let digits := List.replicate (places + 1 - digits.length) '0' ++ digits
    String.ofList (digits.take (digits.length - places) ++ '.' :: digits.drop (digits.length - places))

/-- The text of a value: the fewest digits that read back, without an exponent. -/
def toText : Binary64 → String
  | nan => "NaN"
  | infinite s => if s then "-inf" else "inf"
  | finite s m p => (if s then "-" else "") ++ (if m = 0 then "0" else positional (shortest .up m p))

end Binary64

end Steward
