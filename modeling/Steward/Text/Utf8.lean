/-
Texts from bytes. Reading never fails: what is no UTF-8 is read as the replacement character, one for
each longest start of an encoded character that is not continued as it should be.
-/
namespace Steward.Text

/-- The bytes of a text. -/
def utf8 (s : List Char) : List UInt8 := s.flatMap String.utf8EncodeChar

/-- An encoded character of which some bytes are still to come: its code so far, how many bytes come
after the next one, and between what the next one must lie. -/
structure Unfinished where
  code : Nat
  more : Nat
  low : Nat
  high : Nat

def replacement : Char := Char.ofNat 0xFFFD

/-- A byte where a character begins: what is read, and what is begun. -/
def beginChar (b : UInt8) : List Char × Option Unfinished :=
  let n := b.toNat
  if n < 0x80 then ([Char.ofNat n], none)
  else if 0xC2 ≤ n ∧ n ≤ 0xDF then ([], some ⟨n - 0xC0, 0, 0x80, 0xBF⟩)
  else if 0xE0 ≤ n ∧ n ≤ 0xEF then
    ([], some ⟨n - 0xE0, 1, if n = 0xE0 then 0xA0 else 0x80, if n = 0xED then 0x9F else 0xBF⟩)
  else if 0xF0 ≤ n ∧ n ≤ 0xF4 then
    ([], some ⟨n - 0xF0, 2, if n = 0xF0 then 0x90 else 0x80, if n = 0xF4 then 0x8F else 0xBF⟩)
  else ([replacement], none)

/-- The next byte after what was begun. -/
def continueChar (p : Option Unfinished) (b : UInt8) : List Char × Option Unfinished :=
  match p with
  | none => beginChar b
  | some u =>
    if u.low ≤ b.toNat ∧ b.toNat ≤ u.high then
      let code := u.code * 64 + (b.toNat - 0x80)
      match u.more with
      | 0 => ([Char.ofNat code], none)
      | more + 1 => ([], some ⟨code, more, 0x80, 0xBF⟩)
    else (replacement :: (beginChar b).1, (beginChar b).2)

def readFrom : Option Unfinished → List UInt8 → List Char
  | none, [] => []
  | some _, [] => [replacement]
  | p, b :: rest => (continueChar p b).1 ++ readFrom (continueChar p b).2 rest

/-- The text that bytes write. -/
def ofUtf8 (bytes : List UInt8) : List Char := readFrom none bytes

end Steward.Text
