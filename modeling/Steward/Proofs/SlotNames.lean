/-
The names of a drive's slot. Its number may be written with zeros in front, so that a slot has many names:
one that the scan of the slots spells, and those that no scan meets.
-/
import Mathlib
import Steward.Proofs.Creation

namespace Steward

/-! ## Numbers with zeros in front -/

namespace Text

theorem toNat_of_isDigit {c : Char} (h : c.isDigit = true) :
    '0'.toNat ≤ c.toNat ∧ c.toNat - '0'.toNat < 10 := by
  simp only [Char.isDigit, Bool.and_eq_true, decide_eq_true_eq] at h
  have hlow : 48 ≤ c.toNat := h.1
  have hhigh : c.toNat ≤ 57 := h.2
  have hzero : '0'.toNat = 48 := rfl
  omega

theorem digitChar_of_isDigit {c : Char} (h : c.isDigit = true) : Nat.digitChar (c.toNat - '0'.toNat) = c := by
  obtain ⟨hlow, hlt⟩ := toNat_of_isDigit h
  have hzero : '0'.toNat = 48 := rfl
  refine Char.toNat_inj.1 ?_
  rw [Nat.toNat_digitChar_of_lt_ten hlt]
  omega

theorem toDigits_of_isDigit {c : Char} (h : c.isDigit = true) :
    Nat.toDigits 10 (c.toNat - '0'.toNat) = [c] := by
  rw [Nat.toDigits_of_lt_base (toNat_of_isDigit h).2, digitChar_of_isDigit h]

theorem digitsFrom_cons_eq_some_iff {acc n : Nat} {c : Char} {r : List Char} :
    digitsFrom acc (c :: r) = some n ↔
      c.isDigit = true ∧ digitsFrom (10 * acc + (c.toNat - '0'.toNat)) r = some n := by
  rw [digitsFrom, digitValue?]
  cases c.isDigit <;> simp

/-- Digits read after a number that is not zero are what follows its own digits. -/
theorem toDigits_of_digitsFrom {acc n : Nat} {r : List Char} (ha : 0 < acc) (h : digitsFrom acc r = some n) :
    Nat.toDigits 10 n = Nat.toDigits 10 acc ++ r := by
  induction r generalizing acc with
  | nil =>
    cases h
    exact (List.append_nil _).symm
  | cons c r ih =>
    obtain ⟨hc, hrest⟩ := digitsFrom_cons_eq_some_iff.1 h
    have hnext : Nat.toDigits 10 (10 * acc + (c.toNat - '0'.toNat)) = Nat.toDigits 10 acc ++ [c] := by
      rw [← Nat.toDigits_append_toDigits (by decide) ha (toNat_of_isDigit hc).2, toDigits_of_isDigit hc]
    rw [ih (by omega) hrest, hnext, List.append_assoc, List.singleton_append]

theorem digitsFrom_zeros (k : Nat) (r : List Char) :
    digitsFrom 0 (List.replicate k '0' ++ r) = digitsFrom 0 r := by
  induction k with
  | zero => rfl
  | succ k ih =>
    rw [List.replicate_succ, List.cons_append, digitsFrom]
    exact ih

/-- What is read as a number are its digits, with any number of zeros in front. -/
theorem digits?_eq_some_iff {s : List Char} {n : Nat} :
    digits? s = some n ↔ ∃ k, s = List.replicate k '0' ++ (decimal n).toList := by
  constructor
  · intro h
    induction s with
    | nil => cases h
    | cons c r ih =>
      rw [decimal, String.toList_ofList] at ih ⊢
      obtain ⟨hc, hrest⟩ := digitsFrom_cons_eq_some_iff.1 h
      by_cases hz : c = '0'
      · subst hz
        cases r with
        | nil =>
          cases hrest
          exact ⟨0, rfl⟩
        | cons d r =>
          obtain ⟨k, hk⟩ := ih hrest
          exact ⟨k + 1, by rw [hk]; rfl⟩
      · have hpos : 0 < c.toNat - '0'.toNat := by
          have hne : c.toNat ≠ '0'.toNat := fun he => hz (Char.toNat_inj.1 he)
          have hlow := (toNat_of_isDigit hc).1
          omega
        rw [Nat.mul_zero, Nat.zero_add] at hrest
        exact ⟨0, by rw [toDigits_of_digitsFrom hpos hrest, toDigits_of_isDigit hc]; rfl⟩
  · rintro ⟨k, rfl⟩
    have hn := digits?_decimal n
    cases hs : (decimal n).toList with
    | nil => exact absurd hs (decimal_ne_empty n)
    | cons c r =>
      rw [hs] at hn
      have hzeros : digitsFrom 0 (List.replicate k '0' ++ c :: r) = some n := (digitsFrom_zeros k _).trans hn
      cases k <;> exact hzeros

end Text

/-! ## The names of a slot -/

namespace Bus

/-- The name of a slot with zeros in front of its number. -/
def paddedName (bus : Bus) (zeros slot : Nat) : String :=
  bus.name ++ String.ofList (List.replicate zeros '0') ++ Text.decimal slot

theorem toList_paddedName (bus : Bus) (zeros slot : Nat) :
    (bus.paddedName zeros slot).toList =
      bus.name.toList ++ (List.replicate zeros '0' ++ (Text.decimal slot).toList) := by
  rw [paddedName, String.toList_append, String.toList_append, String.toList_ofList, List.append_assoc]

theorem paddedName_zero (bus : Bus) (slot : Nat) : bus.paddedName 0 slot = bus.slotName slot := by
  rw [paddedName, slotName, List.replicate_zero, String.ofList_nil, String.append_empty]

theorem paddedName_inj {bus : Bus} {j k slot : Nat} :
    bus.paddedName j slot = bus.paddedName k slot ↔ j = k := by
  refine ⟨fun h => ?_, fun h => h ▸ rfl⟩
  have hlength := congrArg (fun name : String => name.toList.length) h
  simp only [toList_paddedName, List.length_append, List.length_replicate] at hlength
  omega

/-- A name says the number of a slot on a bus if it is one of the slot's names. -/
theorem slotOf?_eq_some_iff {bus : Bus} {name : String} {slot : Nat} :
    bus.slotOf? name.toList = some slot ↔ ∃ zeros, name = bus.paddedName zeros slot := by
  simp only [← String.toList_inj, toList_paddedName]
  rw [slotOf?]
  constructor
  · intro h
    split at h
    · rename_i hprefix
      obtain ⟨rest, hrest⟩ := List.isPrefixOf_iff_prefix.1 hprefix
      rw [← hrest, List.drop_left' String.length_toList] at h
      obtain ⟨zeros, hzeros⟩ := Text.digits?_eq_some_iff.1 h
      exact ⟨zeros, by rw [← hrest, hzeros]⟩
    · cases h
  · rintro ⟨zeros, hname⟩
    have hprefix : bus.name.toList.isPrefixOf name.toList = true :=
      List.isPrefixOf_iff_prefix.2 ⟨_, hname.symm⟩
    rw [if_pos hprefix, hname, List.drop_left' String.length_toList]
    exact Text.digits?_eq_some_iff.2 ⟨zeros, rfl⟩

/-- No bus's name begins like another's. -/
theorem slotOf?_paddedName_of_ne {bus other : Bus} (h : other ≠ bus) (zeros slot : Nat) :
    other.slotOf? (bus.paddedName zeros slot).toList = none := by
  have hprefix : other.name.toList.isPrefixOf (bus.paddedName zeros slot).toList = false := by
    rw [toList_paddedName]
    cases other <;> cases bus <;> first | exact absurd rfl h | rfl
  rw [slotOf?, hprefix]
  rfl

end Bus

theorem parseInterface?_eq_some_iff {name : String} {bus : Bus} {slot : Nat} :
    parseInterface? name = some (bus, slot) ↔
      slot ≤ bus.lastSlot ∧ ∃ zeros, name = bus.paddedName zeros slot := by
  constructor
  · intro h
    obtain ⟨found, -, hfound⟩ := List.exists_of_findSome?_eq_some h
    obtain ⟨n, hn, hle⟩ := Option.bind_eq_some_iff.1 hfound
    split at hle
    · rename_i hlast
      cases hle
      exact ⟨hlast, Bus.slotOf?_eq_some_iff.1 hn⟩
    · cases hle
  · rintro ⟨hle, zeros, rfl⟩
    have hself : bus.slotOf? (bus.paddedName zeros slot).toList = some slot :=
      Bus.slotOf?_eq_some_iff.2 ⟨zeros, rfl⟩
    have hother {other : Bus} (h : other ≠ bus) := Bus.slotOf?_paddedName_of_ne h zeros slot
    cases bus <;> simp [parseInterface?, Bus.all, hself, hother, hle]

/-! ## The names that are scanned -/

theorem isPlainSlot_driveSlots : ∀ slot ∈ driveSlots, IsPlainSlot slot := by decide +kernel

theorem mem_driveSlots_iff {name : String} (h : (parseInterface? name).isSome = true) :
    name ∈ driveSlots ↔ IsPlainSlot name :=
  ⟨isPlainSlot_driveSlots name, fun hp => mem_driveSlots_of_isPlainSlot hp h⟩

theorem isPlainSlot_paddedName {bus : Bus} {zeros slot : Nat} (h : slot ≤ bus.lastSlot) :
    IsPlainSlot (bus.paddedName zeros slot) ↔ zeros = 0 := by
  have hparse : parseInterface? (bus.paddedName zeros slot) = some (bus, slot) :=
    parseInterface?_eq_some_iff.2 ⟨h, zeros, rfl⟩
  have hzero : bus.paddedName zeros slot = bus.slotName slot ↔ zeros = 0 := by
    rw [← Bus.paddedName_zero, Bus.paddedName_inj]
  rw [IsPlainSlot, hparse, ← hzero]
  simp

end Steward
