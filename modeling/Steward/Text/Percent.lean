/-
Percent coding of texts: every byte of a character that is not kept becomes a percent sign and two
hexadecimal digits. Reading takes a percent sign without two digits as it stands.
-/
import Steward.Text.Utf8

namespace Steward.Text

def hexDigit (n : Nat) : Char := if n < 10 then Char.ofNat ('0'.toNat + n) else Char.ofNat ('A'.toNat + (n - 10))

def percentByte (b : UInt8) : List Char := ['%', hexDigit (b.toNat / 16), hexDigit (b.toNat % 16)]

/-- A character as it is sent: letters and digits of ASCII are always kept. -/
def percentChar (kept : List Char) (c : Char) : List Char :=
  if c.isAlphanum || kept.contains c then [c] else (String.utf8EncodeChar c).flatMap percentByte

def percentEncode (kept : List Char) (s : String) : String :=
  String.ofList (s.toList.flatMap (percentChar kept))

def hexDigitValue? (b : UInt8) : Option Nat :=
  let n := b.toNat
  if 0x30 ≤ n ∧ n ≤ 0x39 then some (n - 0x30)
  else if 0x41 ≤ n ∧ n ≤ 0x46 then some (n - 0x41 + 10)
  else if 0x61 ≤ n ∧ n ≤ 0x66 then some (n - 0x61 + 10)
  else none

/-- The byte that two digits write. -/
def hexByte? (a b : UInt8) : Option UInt8 :=
  (hexDigitValue? a).bind fun m => (hexDigitValue? b).map fun n => UInt8.ofNat (16 * m + n)

/-- Bytes with their escapes read; the first `skip` of them belong to an escape that has been read. -/
def unescapeFrom : (skip : Nat) → List UInt8 → List UInt8
  | _, [] => []
  | skip + 1, _ :: rest => unescapeFrom skip rest
  | 0, b :: rest =>
    if b = 0x25 then
      match rest with
      | x :: y :: _ =>
        match hexByte? x y with
        | some byte => byte :: unescapeFrom 2 rest
        | none => b :: unescapeFrom 0 rest
      | _ => b :: unescapeFrom 0 rest
    else b :: unescapeFrom 0 rest

def percentDecode (s : String) : String := String.ofList (ofUtf8 (unescapeFrom 0 (utf8 s.toList)))

end Steward.Text
