/-
The text of a value in lowest power reads back as that very value: the decimal that is printed lies among the
numbers that round to it, and neither the zeros that are stripped from its digits nor those that a text without
an exponent spells out change the number that it writes. Every value that was read is in lowest power.
-/
import Mathlib
import Steward.Proofs.Rounding

namespace Steward.Binary64

/-! ## Decimals that round to a value -/

theorem lt_ten_pow_digitCount (n : Nat) : n < 10 ^ digitCount n :=
  (Nat.length_toDigits_le_iff (by decide) Nat.length_toDigits_pos).1 le_rfl

theorem ten_pow_le_of_digitCount {n : Nat} (h : n ≠ 0) : 10 ^ (digitCount n - 1) ≤ n := by
  rcases Nat.eq_zero_or_pos (digitCount n - 1) with hk | hk
  · rw [hk]
    omega
  · have hcount : digitCount n - 1 < digitCount n := by omega
    exact Nat.le_of_not_lt fun hlt =>
      Nat.not_le_of_lt hcount ((Nat.length_toDigits_le_iff (by decide) hk).2 hlt)

theorem readsBack_iff {m p : Nat} {d : Decimal} : readsBack m p d = true ↔
    Rounds m (gap m p) (d.digits * 10 ^ d.exponent.toNat * unit) (10 ^ (-d.exponent).toNat * 2 ^ p) := by
  have hx : ∀ x, x * (4 * unit) = 4 * (x * unit) := fun x => Nat.mul_left_comm x 4 unit
  simp only [readsBack, rounds_iff, gap, hx, Nat.mul_comm (2 ^ p)]
  generalize d.digits * 10 ^ d.exponent.toNat * unit = a
  generalize 10 ^ (-d.exponent).toNat * 2 ^ p = c
  have hone : (4 * m - 1) * c = 4 * (m * c) - 1 * c := by rw [Nat.sub_mul, Nat.mul_assoc]
  have htwo : (4 * m - 2) * c = 4 * (m * c) - 2 * c := by rw [Nat.sub_mul, Nat.mul_assoc]
  have habove : (4 * m + 2) * c = 4 * (m * c) + 2 * c := by rw [Nat.add_mul, Nat.mul_assoc]
  -- for zero the lower bound is cut off, and nothing lies below it either way
  have hzero : m = 0 ∨ c ≤ m * c := (Nat.eq_zero_or_pos m).imp_right fun hm => Nat.le_mul_of_pos_left c hm
  rw [habove]
  generalize m * c = x at *
  split
  · rw [hone]
    simp only [Bool.and_eq_true, Bool.or_eq_true, decide_eq_true_eq, beq_iff_eq]
    omega
  · rw [htwo]
    simp only [Bool.and_eq_true, Bool.or_eq_true, decide_eq_true_eq, beq_iff_eq]
    omega

theorem ten_pow_pos (k : Nat) : 0 < 10 ^ k := Nat.pow_pos (by decide)

theorem exists_two_mul_unit_lt : ∃ k, k = 324 ∧ 2 * unit < 10 ^ k := ⟨324, rfl, by decide +kernel⟩

theorem exists_largest_lt : ∃ k, k = 309 ∧ 2 ^ 53 * 2 ^ 2045 < 10 ^ k * unit :=
  ⟨309, rfl, by decide +kernel⟩

/-- Less than half a unit. -/
theorem lt_of_lead_le {d : Decimal} (h : (digitCount d.digits : Int) + d.exponent ≤ -324) :
    2 * (d.digits * 10 ^ d.exponent.toNat * unit) < 10 ^ (-d.exponent).toNat := by
  obtain ⟨k, hk, hunit⟩ := exists_two_mul_unit_lt
  have hexponent : d.exponent.toNat = 0 := by omega
  calc 2 * (d.digits * 10 ^ d.exponent.toNat * unit) = d.digits * (2 * unit) := by
        rw [hexponent, Nat.pow_zero, Nat.mul_one, Nat.mul_left_comm]
    _ < 10 ^ digitCount d.digits * 10 ^ k := Nat.mul_lt_mul_of_lt_of_lt (lt_ten_pow_digitCount _) hunit
    _ = 10 ^ (digitCount d.digits + k) := (Nat.pow_add ..).symm
    _ ≤ 10 ^ (-d.exponent).toNat := Nat.pow_le_pow_right (by decide) (by omega)

/-- More than the largest finite value. -/
theorem lt_of_le_lead {d : Decimal} (hd : d.digits ≠ 0)
    (h : 310 ≤ (digitCount d.digits : Int) + d.exponent) {p : Nat} (hp : p ≤ 2045) :
    2 ^ 53 * (10 ^ (-d.exponent).toNat * 2 ^ p) < d.digits * 10 ^ d.exponent.toNat * unit := by
  obtain ⟨k, hk, hunit⟩ := exists_largest_lt
  have hpower : 2 ^ 53 * 2 ^ p < 10 ^ k * unit :=
    Nat.lt_of_le_of_lt (Nat.mul_le_mul_left _ (Nat.pow_le_pow_right (by decide) hp)) hunit
  calc 2 ^ 53 * (10 ^ (-d.exponent).toNat * 2 ^ p) = 10 ^ (-d.exponent).toNat * (2 ^ 53 * 2 ^ p) :=
        Nat.mul_left_comm ..
    _ < 10 ^ (-d.exponent).toNat * (10 ^ k * unit) := Nat.mul_lt_mul_of_pos_left hpower (ten_pow_pos _)
    _ = 10 ^ ((-d.exponent).toNat + k) * unit := by rw [Nat.pow_add, Nat.mul_assoc]
    _ ≤ 10 ^ (digitCount d.digits - 1 + d.exponent.toNat) * unit :=
        Nat.mul_le_mul_right _ (Nat.pow_le_pow_right (by decide) (by omega))
    _ = 10 ^ (digitCount d.digits - 1) * 10 ^ d.exponent.toNat * unit := by rw [Nat.pow_add]
    _ ≤ d.digits * 10 ^ d.exponent.toNat * unit :=
        Nat.mul_le_mul_right _ (Nat.mul_le_mul_right _ (ten_pow_le_of_digitCount hd))

/-- A value is the rounding of every decimal that reads back as it; such a decimal is neither so large nor so
small that it is not computed with. -/
theorem ofDecimal_eq_finite {negative : Bool} {d : Decimal} {m p : Nat}
    (hx : (finite negative m p).Canonical) (hm : m ≠ 0) (h : readsBack m p d = true) :
    ofDecimal negative d = finite negative m p := by
  have hr := readsBack_iff.1 h
  have hc : 10 ^ (-d.exponent).toNat ≤ 10 ^ (-d.exponent).toNat * 2 ^ p :=
    Nat.le_mul_of_pos_right _ (Nat.two_pow_pos p)
  have hten := ten_pow_pos (-d.exponent).toNat
  have hpositive := hr.le_double hm
  have hdigits : d.digits ≠ 0 := by
    intro hzero
    rw [hzero, Nat.zero_mul, Nat.zero_mul] at hpositive
    omega
  have hsmall : ¬(digitCount d.digits : Int) + d.exponent ≤ -324 := by
    intro hlead
    have := lt_of_lead_le hlead
    omega
  have hlarge : ¬310 ≤ (digitCount d.digits : Int) + d.exponent := by
    intro hlead
    have := lt_of_le_lead hdigits hlead hx.2.2
    have := hr.lt (by omega) hx.1
    omega
  rw [ofDecimal, if_neg (not_or.2 ⟨hdigits, hsmall⟩), if_neg hlarge]
  exact round_eq_finite hten hx hr

/-! ## One number in several notations -/

/-- Equal as numbers. -/
def SameNumber (d d' : Decimal) : Prop :=
  d.digits * 10 ^ d.exponent.toNat * 10 ^ (-d'.exponent).toNat =
    d'.digits * 10 ^ d'.exponent.toNat * 10 ^ (-d.exponent).toNat

theorem SameNumber.readsBack_eq {d d' : Decimal} (h : SameNumber d d') (m p : Nat) :
    readsBack m p d = readsBack m p d' := by
  have hnumber : 10 ^ (-d'.exponent).toNat * (d.digits * 10 ^ d.exponent.toNat * unit) =
      10 ^ (-d.exponent).toNat * (d'.digits * 10 ^ d'.exponent.toNat * unit) := by
    rw [← Nat.mul_assoc, Nat.mul_comm (10 ^ (-d'.exponent).toNat), h, Nat.mul_comm _ (_ ^ _), Nat.mul_assoc]
  rw [Bool.eq_iff_iff, readsBack_iff, readsBack_iff, ← Rounds.scale (ten_pow_pos (-d'.exponent).toNat),
    ← Rounds.scale (a := d'.digits * _ * _) (ten_pow_pos (-d.exponent).toNat), hnumber,
    Nat.mul_left_comm (10 ^ (-d'.exponent).toNat)]

/-- A zero at the end moves into the exponent. -/
theorem sameNumber_strip {d : Decimal} (h : d.digits % 10 = 0) :
    SameNumber d ⟨d.digits / 10, d.exponent + 1⟩ := by
  obtain ⟨n, e⟩ := d
  obtain ⟨q, rfl⟩ := Nat.dvd_of_mod_eq_zero h
  simp only [SameNumber, Nat.mul_div_cancel_left q (by decide : 0 < 10)]
  rcases lt_or_ge e 0 with he | he
  · have hplaces : (-e).toNat = (-(e + 1)).toNat + 1 := by omega
    have hwhole : e.toNat = 0 ∧ (e + 1).toNat = 0 := by omega
    rw [hwhole.1, hwhole.2, hplaces, Nat.pow_succ]
    ring
  · have hplaces : (-e).toNat = 0 ∧ (-(e + 1)).toNat = 0 := by omega
    have hwhole : (e + 1).toNat = e.toNat + 1 := by omega
    rw [hplaces.1, hplaces.2, hwhole, Nat.pow_succ]
    ring

theorem readsBack_stripZeros (m p fuel : Nat) (d : Decimal) :
    readsBack m p (stripZeros fuel d) = readsBack m p d := by
  induction fuel generalizing d with
  | zero => rfl
  | succ fuel ih =>
    rw [stripZeros]
    split
    · rename_i h
      rw [ih, (sameNumber_strip h.2).readsBack_eq]
    · rfl

theorem readsBack_of_onGrid? {tie : Tie} {m p : Nat} {e : Int} {d : Decimal} (h : onGrid? tie m p e = some d) :
    readsBack m p d = true := by
  simp only [onGrid?] at h
  split_ifs at h with hsecond hfirst
  · exact Option.some.inj h ▸ (Bool.and_eq_true_iff.1 hsecond).1
  · exact Option.some.inj h ▸ hfirst

/-- All the digits that a value has. -/
theorem readsBack_exact {bits : Nat} (h : unit = 2 ^ bits) (m p : Nat) :
    readsBack m p ⟨scaled m p * 5 ^ bits, -bits⟩ = true := by
  have hvalue : scaled m p * 5 ^ bits * 10 ^ (-(bits : Int)).toNat * unit = m * (10 ^ bits * 2 ^ p) := by
    have hplaces : (-(bits : Int)).toNat = 0 := by omega
    rw [hplaces, h, Nat.pow_zero, Nat.mul_one, Nat.mul_assoc, ← Nat.mul_pow, scaled, Nat.mul_assoc,
      Nat.mul_comm (2 ^ p)]
  rw [readsBack_iff, hvalue, Int.neg_neg, Int.toNat_natCast]
  exact rounds_exact (Nat.mul_pos (ten_pow_pos _) (Nat.two_pow_pos p))

theorem readsBack_shortest (tie : Tie) (m p : Nat) : readsBack m p (shortest tie m p) = true := by
  simp only [shortest, readsBack_stripZeros]
  cases hfound : (List.range 17).findSome? fun n => onGrid? tie m p (scale m p - (n + 1 : Nat)) with
  | none =>
    obtain ⟨bits, hunit, hbits⟩ := exists_unit
    have hexact := readsBack_exact hunit m p
    rw [hbits] at hexact
    exact hexact
  | some d =>
    obtain ⟨n, -, hd⟩ := List.exists_of_findSome?_eq_some hfound
    exact readsBack_of_onGrid? hd

/-! ## Texts without an exponent -/

/-- The digits of a decimal without an exponent: those in front of the point, of which there is one at least,
and those behind it. -/
theorem exists_positional (d : Decimal) : ∃ whole fraction : List Char, whole ≠ [] ∧
    (∀ c ∈ whole ++ fraction, c.isDigit = true) ∧ fraction.length = (-d.exponent).toNat ∧
    Nat.ofDigitChars 10 (whole ++ fraction) 0 = d.digits * 10 ^ d.exponent.toNat ∧
    (positional d).toList = whole ++ if 0 ≤ d.exponent then [] else '.' :: fraction := by
  have hdigit : ∀ c ∈ Nat.toDigits 10 d.digits, c.isDigit = true :=
    fun c hc => Nat.isDigit_of_mem_toDigits (by decide) (by decide) hc
  have hzero : ∀ n, ∀ c ∈ List.replicate n '0', c.isDigit = true := fun n c hc => by
    rw [List.eq_of_mem_replicate hc]
    decide
  by_cases he : 0 ≤ d.exponent
  · refine ⟨Nat.toDigits 10 d.digits ++ List.replicate d.exponent.toNat '0', [], ?_, ?_, ?_, ?_, ?_⟩
    · exact List.append_ne_nil_of_left_ne_nil (List.length_pos_iff.1 Nat.length_toDigits_pos) _
    · rw [List.append_nil]
      exact fun c hc => (List.mem_append.1 hc).elim (hdigit c) (hzero _ c)
    · rw [List.length_nil]
      omega
    · rw [List.append_nil, Nat.ofDigitChars_append, Nat.ofDigitChars_ten_toDigits,
        Nat.ofDigitChars_replicate_zero, Nat.mul_comm]
    · rw [positional, if_pos he, if_pos he, String.toList_ofList, List.append_nil]
  · generalize hplaces : (-d.exponent).toNat = places
    generalize hpadded : List.replicate (places + 1 - (Nat.toDigits 10 d.digits).length) '0' ++
      Nat.toDigits 10 d.digits = padded
    have hlength : places + 1 ≤ padded.length := by
      rw [← hpadded, List.length_append, List.length_replicate]
      omega
    refine ⟨padded.take (padded.length - places), padded.drop (padded.length - places), ?_, ?_, ?_, ?_, ?_⟩
    · rw [← List.length_pos_iff, List.length_take]
      omega
    · rw [List.take_append_drop, ← hpadded]
      exact fun c hc => (List.mem_append.1 hc).elim (hzero _ c) (hdigit c)
    · rw [List.length_drop]
      omega
    · have hwhole : d.exponent.toNat = 0 := by omega
      rw [List.take_append_drop, ← hpadded, Nat.ofDigitChars_append, Nat.ofDigitChars_replicate_zero,
        Nat.mul_zero, Nat.ofDigitChars_ten_toDigits, hwhole, Nat.pow_zero, Nat.mul_one]
    · simp only [positional, if_neg he, String.toList_ofList, hplaces, hpadded]

/-- What a positional text is read as: the same number, with no exponent above zero. -/
theorem takeMantissa_positional (d : Decimal) : ∃ c rest d', (positional d).toList = c :: rest ∧
    c.isDigit = true ∧ takeMantissa (c :: rest) = some (d', []) ∧ SameNumber d d' := by
  obtain ⟨whole, fraction, hne, hdigit, hlength, hvalue, htext⟩ := exists_positional d
  have hwhole : ∀ c ∈ whole, c.isDigit = true := fun c hc => hdigit c (List.mem_append_left _ hc)
  obtain ⟨c, rest, hcons⟩ := List.exists_cons_of_ne_nil hne
  rw [hcons, List.cons_append] at htext
  have hc := hwhole c (by simp [hcons])
  refine ⟨c, _, ⟨d.digits * 10 ^ d.exponent.toNat, min d.exponent 0⟩, htext, hc, ?_, ?_⟩
  · have hlength' : whole.length ≠ 0 := fun hn => hne (List.length_eq_zero_iff.1 hn)
    rw [← List.cons_append, ← hcons]
    split
    · obtain rfl : fraction = [] := List.length_eq_zero_iff.1 (by omega)
      have htake : takeDigits (whole ++ []) = _ := takeDigits_append hwhole rfl
      have hexponent : min d.exponent 0 = 0 := by omega
      rw [List.append_nil] at hvalue
      simp only [takeMantissa, htake, hvalue, hexponent, if_neg hlength']
    · have htake : takeDigits (whole ++ '.' :: fraction) = _ := takeDigits_append hwhole rfl
      have htake' : takeDigits (fraction ++ []) = _ :=
        takeDigits_append (fun c hc => hdigit c (List.mem_append_right _ hc)) rfl
      have hexponent : min d.exponent 0 = -((-d.exponent).toNat : Int) := by omega
      rw [List.append_nil] at htake'
      rw [Nat.ofDigitChars_append, Nat.ofDigitChars_eq_ofDigitChars_zero] at hvalue
      simp only [takeMantissa, htake, htake', hexponent, ← hlength, ← hvalue]
      rw [if_neg (by omega), Nat.mul_comm]
  · have hplaces : (-min d.exponent 0).toNat = (-d.exponent).toNat := by omega
    have hpower : (min d.exponent 0).toNat = 0 := by omega
    rw [SameNumber, hplaces, hpower, Nat.pow_zero, Nat.mul_one]

/-- Every value in lowest power reads back from its own text. -/
theorem ofText?_toText {x : Binary64} (h : x.Canonical) : ofText? x.toText = some x := by
  cases x with
  | nan => decide
  | infinite negative => cases negative <;> decide
  | finite negative m p =>
    by_cases hm : m = 0
    · obtain rfl : p = 0 := h.2.1.resolve_left (by omega)
      subst hm
      cases negative <;> decide
    · obtain ⟨c, rest, d, htext, hc, hread, hsame⟩ := takeMantissa_positional (shortest .up m p)
      have hvalue : ∀ negative, (finite negative m p).Canonical →
          unsigned? negative (c :: rest) = some (finite negative m p) := fun negative h => by
        rw [unsigned?_of_isDigit hc hread]
        refine congrArg some (ofDecimal_eq_finite h hm ?_)
        rw [← hsame.readsBack_eq, readsBack_shortest]
      rw [toText, if_neg hm]
      cases negative with
      | false =>
        rw [if_neg (by decide), String.empty_append, ofText?_of_isDigit htext hc]
        exact hvalue false h
      | true =>
        rw [if_pos rfl, ofText?, String.toList_append, htext]
        exact hvalue true h

/-! ## Values that were read -/

theorem canonical_ofDecimal (negative : Bool) (d : Decimal) : (ofDecimal negative d).Canonical := by
  simp only [ofDecimal]
  split_ifs
  · exact ⟨by decide, .inr rfl, by decide⟩
  · trivial
  · exact canonical_round ..

theorem canonical_of_unsigned? {negative : Bool} {s : List Char} {x : Binary64}
    (h : unsigned? negative s = some x) : x.Canonical := by
  simp only [unsigned?] at h
  split_ifs at h
  · obtain rfl := Option.some.inj h
    trivial
  · obtain rfl := Option.some.inj h
    trivial
  · obtain ⟨⟨d, rest⟩, -, hexponent⟩ := Option.bind_eq_some_iff.1 h
    obtain ⟨e, -, rfl⟩ := Option.map_eq_some_iff.1 hexponent
    exact canonical_ofDecimal ..

theorem canonical_of_ofText? {s : String} {x : Binary64} (h : ofText? s = some x) : x.Canonical := by
  rw [ofText?] at h
  split at h <;> exact canonical_of_unsigned? h

end Steward.Binary64
