/-
Reading values from text. Nesting is limited, blanks are the four of ASCII, and nothing may follow the
value. How a number with a fraction or an exponent, or one too large for a whole number, becomes a
floating point value is a parameter: `Rounding.nearest` takes the value nearest to what is written;
`Rounding.scaled` takes the leading digits that fit 64 bits and scales them by a power of ten, rounding
at each step.
-/
import Steward.Json

namespace Steward.Json

/-- What is written of a number: its digits before and after the point, and its exponent. -/
structure Numeral where
  negative : Bool
  whole : List Char
  fraction : List Char
  exponent : Int

inductive Rounding
  | nearest
  | scaled

/-- Digits appended to a number while it stays below `2 ^ 64`; how many were, and what is left. -/
def appendDigits (n : Nat) : List Char → Nat × Nat × List Char
  | [] => (n, 0, [])
  | c :: rest =>
    let next := 10 * n + (c.toNat - '0'.toNat)
    if next < 2 ^ 64 then
      let (n, k, rest) := appendDigits next rest
      (n, k + 1, rest)
    else (n, 0, c :: rest)

/-- Division by ten to the power of `k`, by `10 ^ 308` at a time; what is left after `steps` such
divisions is zero. -/
def scaleDown (x : Binary64) (k : Nat) : (steps : Nat) → Binary64
  | 0 => .zero false
  | steps + 1 =>
    if k ≤ 308 then x.div (.ofDecimal false ⟨1, k⟩)
    else if x.isZero then x
    else scaleDown (x.div (.ofDecimal false ⟨1, 308⟩)) (k - 308) steps

/-- The leading digits times a power of ten; `none` where that is too large. -/
def Numeral.scaled? (n : Numeral) : Option Binary64 :=
  let (head, _, dropped) := appendDigits 0 n.whole
  let (head, taken, _) := appendDigits head n.fraction
  let exponent : Int := dropped.length - (taken : Int) + n.exponent
  let x := Binary64.ofNat head
  let x? :=
    if exponent < 0 then some (scaleDown x (-exponent).toNat 5)
    else if 308 < exponent then if head = 0 then some (.zero false) else none
    else
      match x.mul (.ofDecimal false ⟨1, exponent⟩) with
      | .infinite _ => none
      | y => some y
  x?.map fun x => if n.negative then x.neg else x

/-- The value nearest to what is written. -/
def Numeral.nearest (n : Numeral) : Binary64 :=
  .ofDecimal n.negative ⟨((n.whole ++ n.fraction).foldl (fun k c => 10 * k + (c.toNat - '0'.toNat)) 0),
    n.exponent - n.fraction.length⟩

def Numeral.toBinary64? (rounding : Rounding) (n : Numeral) : Option Binary64 :=
  match rounding with
  | .nearest => some n.nearest
  | .scaled => n.scaled?

/-- A whole number if nothing but digits is written and they fit: negative zero has no whole form. -/
def Numeral.toNumber? (rounding : Rounding) (n : Numeral) (isWhole : Bool) : Option Number :=
  let k := (n.whole.foldl (fun k c => 10 * k + (c.toNat - '0'.toNat)) 0)
  if isWhole ∧ !n.negative ∧ k < 2 ^ 64 then some (.natural (UInt64.ofNat k))
  else if isWhole ∧ n.negative ∧ 0 < k ∧ k ≤ 2 ^ 63 then some (.negative k)
  else (n.toBinary64? rounding).map .fraction

def isSpace (c : Char) : Bool := c = ' ' ∨ c = '\n' ∨ c = '\t' ∨ c = '\r'

def skip (s : List Char) : List Char := s.dropWhile isSpace

/-- One or more digits, and the rest. -/
def digits1 (s : List Char) : Option (List Char × List Char) :=
  match s.takeWhile Char.isDigit with
  | [] => none
  | ds => some (ds, s.dropWhile Char.isDigit)

/-- Digits of a whole part: no zero in front of others. -/
def wholeDigits (s : List Char) : Option (List Char × List Char) :=
  match digits1 s with
  | some ('0' :: _ :: _, _) => none
  | r => r

def exponentPart : List Char → Option (Option Int × List Char)
  | c :: s =>
    if c = 'e' ∨ c = 'E' then
      let (negative, s) := match s with
        | '-' :: s => (true, s)
        | '+' :: s => (false, s)
        | s => (false, s)
      (digits1 s).map fun (ds, rest) =>
        let n : Int := (ds.foldl (fun k c => 10 * k + (c.toNat - '0'.toNat)) 0 : Nat)
        (some (if negative then -n else n), rest)
    else some (none, c :: s)
  | [] => some (none, [])

def fractionPart : List Char → Option (Option (List Char) × List Char)
  | '.' :: s => (digits1 s).map fun (ds, rest) => (some ds, rest)
  | s => some (none, s)

/-- A number at the front of a text. -/
def number? (rounding : Rounding) (s : List Char) : Option (Json × List Char) := do
  let (negative, s) := match s with
    | '-' :: s => (true, s)
    | s => (false, s)
  let (whole, s) ← wholeDigits s
  let (fraction, s) ← fractionPart s
  let (exponent, s) ← exponentPart s
  let numeral : Numeral := ⟨negative, whole, fraction.getD [], exponent.getD 0⟩
  let n ← numeral.toNumber? rounding (fraction.isNone && exponent.isNone)
  some (.number n, s)

def hexValue? (c : Char) : Option Nat :=
  if c.isDigit then some (c.toNat - '0'.toNat)
  else if 'a' ≤ c ∧ c ≤ 'f' then some (c.toNat - 'a'.toNat + 10)
  else if 'A' ≤ c ∧ c ≤ 'F' then some (c.toNat - 'A'.toNat + 10)
  else none

def hex4? : List Char → Option (Nat × List Char)
  | a :: b :: c :: d :: rest => do
    some (((← hexValue? a) * 16 + (← hexValue? b)) * 256 + (← hexValue? c) * 16 + (← hexValue? d), rest)
  | _ => none

/-- The character of a `\u` escape, whose digits come next: two escapes together write a character
beyond the first 65536; one half alone writes none. -/
def unicode? (s : List Char) : Option (Char × List Char) := do
  let (n, rest) ← hex4? s
  if n < 0xD800 ∨ 0xE000 ≤ n then some (Char.ofNat n, rest)
  else if 0xDC00 ≤ n then none
  else
    match rest with
    | '\\' :: 'u' :: rest =>
      let (m, rest) ← hex4? rest
      if 0xDC00 ≤ m ∧ m < 0xE000 then
        some (Char.ofNat (0x10000 + (n - 0xD800) * 0x400 + (m - 0xDC00)), rest)
      else none
    | _ => none

def unescaped? (c : Char) : Option Char :=
  if c = '"' ∨ c = '\\' ∨ c = '/' then some c
  else if c = 'b' then some (Char.ofNat 8)
  else if c = 'f' then some (Char.ofNat 12)
  else if c = 'n' then some '\n'
  else if c = 'r' then some '\r'
  else if c = 't' then some '\t'
  else none

/-- The rest of a quoted text, its opening quote taken; `fuel` is at least its length. -/
def string? : (fuel : Nat) → List Char → Option (List Char × List Char)
  | 0, _ => none
  | fuel + 1, s =>
    match s with
    | '"' :: rest => some ([], rest)
    | '\\' :: 'u' :: rest => do
      let (c, rest) ← unicode? rest
      let (cs, rest) ← string? fuel rest
      some (c :: cs, rest)
    | '\\' :: c :: rest => do
      let c ← unescaped? c
      let (cs, rest) ← string? fuel rest
      some (c :: cs, rest)
    | c :: rest =>
      if c.toNat < 32 ∨ c = '\\' then none
      else (string? fuel rest).map fun (cs, rest) => (c :: cs, rest)
    | [] => none

def word? (word : List Char) (value : Json) (s : List Char) : Option (Json × List Char) :=
  if word.isPrefixOf s then some (value, s.drop word.length) else none

mutual

/-- A value at the front of a text without blanks before it; `fuel` is at least the text's length plus
one, `depth` how deep the value may nest. -/
def valueAt? (rounding : Rounding) : (fuel : Nat) → (depth : Nat) → List Char → Option (Json × List Char)
  | 0, _, _ => none
  | fuel + 1, depth, s =>
    match s with
    | '"' :: rest => (string? (rest.length + 1) rest).map fun (cs, rest) => (.string (String.ofList cs), rest)
    | '[' :: rest =>
      if depth ≤ 1 then none
      else
        match skip rest with
        | ']' :: rest => some (.array [], rest)
        | rest => (itemsAt? rounding fuel (depth - 1) rest).map fun (items, rest) => (.array items, rest)
    | '\x7b' :: rest =>
      if depth ≤ 1 then none
      else
        match skip rest with
        | '\x7d' :: rest => some (.object [], rest)
        | rest => (membersAt? rounding fuel (depth - 1) rest).map fun (ms, rest) => (.object ms, rest)
    | 't' :: _ => word? "true".toList (.bool true) s
    | 'f' :: _ => word? "false".toList (.bool false) s
    | 'n' :: _ => word? "null".toList .null s
    | s => number? rounding s

/-- The items of an array up to its end, at least one. -/
def itemsAt? (rounding : Rounding) : (fuel : Nat) → (depth : Nat) → List Char →
    Option (List Json × List Char)
  | 0, _, _ => none
  | fuel + 1, depth, s =>
    match valueAt? rounding fuel depth s with
    | none => none
    | some (item, rest) =>
      match skip rest with
      | ',' :: rest => (itemsAt? rounding fuel depth (skip rest)).map fun (items, rest) => (item :: items, rest)
      | ']' :: rest => some ([item], rest)
      | _ => none

/-- The members of an object up to its end, at least one. -/
def membersAt? (rounding : Rounding) : (fuel : Nat) → (depth : Nat) → List Char →
    Option (List (String × Json) × List Char)
  | 0, _, _ => none
  | fuel + 1, depth, s =>
    match s with
    | '"' :: rest =>
      match string? (rest.length + 1) rest with
      | none => none
      | some (name, rest) =>
        match skip rest with
        | ':' :: rest =>
          match valueAt? rounding fuel depth (skip rest) with
          | none => none
          | some (value, rest) =>
            match skip rest with
            | ',' :: rest =>
              (membersAt? rounding fuel depth (skip rest)).map fun (ms, rest) =>
                ((String.ofList name, value) :: ms, rest)
            | '\x7d' :: rest => some ([(String.ofList name, value)], rest)
            | _ => none
        | _ => none
    | _ => none

end

/-- How deep values may nest. -/
def maxDepth : Nat := 128

/-- The value that a text consists of. -/
def ofText? (rounding : Rounding) (s : String) : Option Json :=
  let s := skip s.toList
  match valueAt? rounding (2 * s.length + 2) maxDepth s with
  | some (value, rest) => if (skip rest).isEmpty then some value else none
  | none => none

end Steward.Json
