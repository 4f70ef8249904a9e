/-
Sizes written in digits and a unit. Any number below `2 ^ 53` is read without an error, of whatever unit, up to
the largest number of bytes that can be counted (`Writes.diskBytes?_eq`), and bytes are rounded up to the least
number of GiB that holds them (`toNat_gibOfBytes_le_iff`). What is written in GiB is therefore read in GiB as it
was written (`Writes.sizeGib_eq`).
-/
import Mathlib
import Steward.Disk.Drive
import Steward.Proofs.Binary64

namespace Steward

/-! ## Units -/

/-- What sizes are written in. -/
inductive SizeUnit
  | byte | kib | mib | gib | tib
  deriving DecidableEq, Repr

namespace SizeUnit

/-- Each unit is 1024 of the one before. -/
def bytes : SizeUnit → Nat
  | byte => 1
  | kib => 1024
  | mib => 1024 ^ 2
  | gib => 1024 ^ 3
  | tib => 1024 ^ 4

/-- The letters that a unit is written as behind a number; bytes have none. -/
def letters : SizeUnit → List Char
  | byte => []
  | kib => ['K', 'k']
  | mib => ['M', 'm']
  | gib => ['G', 'g']
  | tib => ['T', 't']

/-- Texts that say `n` of a unit. -/
inductive Writes (n : Nat) : SizeUnit → String → Prop
  | number : Writes n byte (Text.decimal n)
  | letter {u : SizeUnit} {c : Char} (hc : c ∈ u.letters) : Writes n u (Text.decimal n ++ String.singleton c)
  /-- Blanks may stand around. -/
  | padded {u : SizeUnit} {text before after : String} (h : Writes n u text)
      (hb : ∀ c ∈ before.toList, Text.isBlank c = true) (ha : ∀ c ∈ after.toList, Text.isBlank c = true) :
      Writes n u (before ++ text ++ after)

variable {u : SizeUnit} {n : Nat} {text : String}

theorem letter_spec {c : Char} (h : c ∈ u.letters) :
    c.isAlpha = true ∧ Text.isBlank c = false ∧ sizeFactor? c = some u.bytes := by
  cases u with
  | byte => cases h
  | kib | mib | gib | tib =>
    simp only [letters, List.mem_cons, List.not_mem_nil, or_false] at h
    rcases h with rfl | rfl <;> decide

/-- The text that sizes of disks are asked for with. -/
theorem writes_gib (n : Nat) : Writes n gib (Text.decimal n ++ "G") := .letter (c := 'G') (by decide)

/-! ## Bytes -/

/-- The number and the unit of a size. -/
theorem Writes.sizeParts?_trim (h : Writes n u text) :
    sizeParts? (Text.trim text.toList) = some ((Text.decimal n).toList, u.bytes) := by
  have hdigit : ∀ c ∈ (Text.decimal n).toList, c.isDigit = true := fun _ => Text.isDigit_of_mem_decimal
  have hblank : ∀ c ∈ (Text.decimal n).toList, Text.isBlank c = false := fun c hc =>
    Text.isBlank_of_isDigit (hdigit c hc)
  have hstart : Text.startsBlank (Text.decimal n).toList = false := Text.startsBlank_eq_false hblank
  induction h with
  | number =>
    rw [Text.trim_eq_self hstart (Text.endsBlank_eq_false hblank), sizeParts?]
    cases hlast : (Text.decimal n).toList.getLast? with
    | none => rfl
    | some c => exact if_neg (by simp [Text.isAlpha_of_isDigit (hdigit c (List.mem_of_getLast? hlast))])
  | letter hc =>
    rename_i c
    obtain ⟨halpha, hvisible, hfactor⟩ := letter_spec hc
    have hlast : ((Text.decimal n).toList ++ [c]).getLast? = some c := by simp
    have hstart : Text.startsBlank ((Text.decimal n).toList ++ [c]) = false := by
      rwa [Text.startsBlank_append (Text.decimal_ne_empty n)]
    have hend : Text.endsBlank ((Text.decimal n).toList ++ [c]) = false := by
      rwa [Text.endsBlank, hlast, Option.any_some]
    rw [String.toList_append, String.toList_singleton, Text.trim_eq_self hstart hend, sizeParts?, hlast]
    dsimp only
    rw [if_pos halpha, hfactor, Option.map_some, List.dropLast_concat]
  | padded _ hb ha ih => rw [String.toList_append, String.toList_append, Text.trim_padded hb ha, ih]

/-- A size is read as it is, and as the largest one that can be counted if it is larger. -/
theorem Writes.diskBytes?_eq (h : Writes n u text) (hn : n < 2 ^ 53) :
    diskBytes? text = some (UInt64.ofNat (min (2 ^ 64 - 1) (n * u.bytes))) := by
  obtain ⟨m, p, hread, hvalue⟩ := Binary64.ofText?_decimal hn
  rw [diskBytes?, h.sizeParts?_trim]
  simp only [Option.bind_eq_bind, Option.bind_some, String.ofList_toList, hread,
    Binary64.ceilTimes_natural hvalue]

end SizeUnit

/-! ## GiB -/

/-- The largest size whose bytes can be counted. -/
def maxSizeGib : Nat := 2 ^ 34

theorem toNat_gibOfBytes (bytes : UInt64) : (gibOfBytes bytes).toNat = (bytes.toNat + (2 ^ 30 - 1)) / 2 ^ 30 := by
  have hbytes : bytes.toNat < 2 ^ 64 := bytes.toNat_lt
  have hfits : (bytes.toNat + (2 ^ 30 - 1)) / 2 ^ 30 < 2 ^ 64 := by omega
  rw [gibOfBytes, bytesPerGib, UInt64.toNat_ofNat_of_lt' hfits]

/-- Bytes are rounded up. -/
theorem toNat_gibOfBytes_le_iff {bytes : UInt64} {g : Nat} :
    (gibOfBytes bytes).toNat ≤ g ↔ bytes.toNat ≤ g * 2 ^ 30 := by
  rw [toNat_gibOfBytes]
  omega

theorem isLeast_gibOfBytes (bytes : UInt64) :
    IsLeast {g : Nat | bytes.toNat ≤ g * 2 ^ 30} (gibOfBytes bytes).toNat :=
  ⟨toNat_gibOfBytes_le_iff.1 le_rfl, fun _ hg => toNat_gibOfBytes_le_iff.2 hg⟩

/-- A drive's size in GiB is read as it is written. The largest one has a byte too many, which is made up for by
rounding. -/
theorem SizeUnit.Writes.sizeGib_eq {n : Nat} {text : String} (h : Writes n gib text) (hn : n ≤ maxSizeGib)
    {p : PropertyString} (hp : p.get? "size" = some text) : Drive.sizeGib p = .ok (UInt64.ofNat n) := by
  have hmax : maxSizeGib = 2 ^ 34 := rfl
  have hgib : gibOfBytes (UInt64.ofNat (min (2 ^ 64 - 1) (n * gib.bytes))) = UInt64.ofNat n := by
    rw [← UInt64.toNat_inj, toNat_gibOfBytes, UInt64.toNat_ofNat', UInt64.toNat_ofNat', bytes]
    omega
  rw [Drive.sizeGib, hp]
  simp only [h.diskBytes?_eq (by omega), hgib]

end Steward
