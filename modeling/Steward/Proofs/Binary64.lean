/-
Whole numbers below `2 ^ 53` are binary floating-point values, so what is written in decimal digits is
read, scaled and cut off without any error: sizes and limits that were printed read back as they were. So are
powers of two, as long as they are not too large or too small for the format: their products are exact.
-/
import Mathlib
import Steward.Disk.Size
import Steward.Proofs.Text

namespace Steward.Binary64

theorem nearestEven_mul (q : Nat) {den : Nat} (h : 0 < den) : nearestEven (q * den) den = q := by
  rw [nearestEven, Nat.mul_mod_left, Nat.mul_div_cancel q h]
  exact if_pos (by omega)

theorem nearestEven_zero {den : Nat} (h : 0 < den) : nearestEven 0 den = 0 := by
  have hmul := nearestEven_mul 0 h
  rwa [Nat.zero_mul] at hmul

theorem nearestEven_scale {c : Nat} (hc : 0 < c) (num den : Nat) :
    nearestEven (c * num) (c * den) = nearestEven num den := by
  have hlt : 2 * (c * (num % den)) < c * den ↔ 2 * (num % den) < den := by
    rw [Nat.mul_left_comm]
    exact Nat.mul_lt_mul_left hc
  have heq : 2 * (c * (num % den)) = c * den ↔ 2 * (num % den) = den := by
    rw [Nat.mul_left_comm]
    exact Nat.mul_right_inj hc.ne'
  simp only [nearestEven, Nat.mul_div_mul_left num den hc, Nat.mul_mod_mul_left, hlt, heq]

theorem le_nearestEven (num den : Nat) : num / den ≤ nearestEven num den := by
  simp only [nearestEven]
  split_ifs <;> omega

theorem nearestEven_le (num den : Nat) : nearestEven num den ≤ num / den + 1 := by
  simp only [nearestEven]
  split_ifs <;> omega

/-- Half of a quotient is not rounded to more than the quotient. -/
theorem nearestEven_double_le (num den : Nat) : nearestEven num (den * 2) ≤ nearestEven num den := by
  have hhalf : num / (den * 2) = num / den / 2 := (Nat.div_div_eq_div_mul _ _ _).symm
  have hlow := le_nearestEven num den
  rcases Nat.eq_zero_or_pos (num / den) with hzero | hpos
  · rcases Nat.eq_zero_or_pos den with rfl | hden
    · rw [Nat.zero_mul]
    · have hlt : num < den := (Nat.div_eq_zero_iff_lt hden).1 hzero
      have hdown : nearestEven num (den * 2) = 0 := by
        rw [nearestEven, Nat.mod_eq_of_lt (by omega), if_pos (by omega), hhalf, hzero]
      omega
  · have hhigh := nearestEven_le num (den * 2)
    omega

theorem unit_pos : 0 < unit := by decide +kernel

theorem exists_unit : ∃ bits, unit = 2 ^ bits ∧ bits = 1074 := ⟨1074, unit.eq_1, rfl⟩

theorem log2_mul_two_pow {n : Nat} (h : 0 < n) (k : Nat) : (n * 2 ^ k).log2 = n.log2 + k := by
  have hpos : n * 2 ^ k ≠ 0 := Nat.mul_ne_zero (by omega) (Nat.two_pow_pos k).ne'
  obtain ⟨hlow, hhigh⟩ := (Nat.log2_eq_iff (k := n.log2) (by omega)).1 rfl
  refine (Nat.log2_eq_iff hpos).2 ⟨?_, ?_⟩
  · rw [Nat.pow_add]
    exact Nat.mul_le_mul_right _ hlow
  · rw [Nat.add_right_comm, Nat.pow_add]
    exact Nat.mul_lt_mul_of_pos_right hhigh (Nat.two_pow_pos k)

theorem round_one_zero : round false 0 1 = finite false 0 0 := by
  rw [round, Nat.zero_mul, Nat.zero_div]
  decide

/-- A whole number is its own rounding, with a significand of 53 bits. -/
theorem round_natural {n : Nat} (h : n < 2 ^ 53) : ∃ m p, round false n 1 = finite false m p ∧
    scaled m p = n * unit := by
  rcases Nat.eq_zero_or_pos n with rfl | hpos
  · exact ⟨0, 0, round_one_zero, by rw [scaled, Nat.zero_mul, Nat.zero_mul]⟩
  · have hlog : n.log2 < 53 := (Nat.log2_lt (by omega)).2 h
    obtain ⟨bits, hunit, hbits⟩ := exists_unit
    have hpower : (n * unit / 1).log2 - 52 = n.log2 + 1022 := by
      rw [Nat.div_one, hunit, log2_mul_two_pow hpos]
      omega
    -- the factor by which the significand is larger than the number
    have hfactor : unit = 2 ^ (52 - n.log2) * 2 ^ (n.log2 + 1022) := by
      have hsum : 52 - n.log2 + (n.log2 + 1022) = bits := by omega
      rw [hunit, ← Nat.pow_add, hsum]
    have hexact : nearestEven (n * unit) (1 * 2 ^ (n.log2 + 1022)) = n * 2 ^ (52 - n.log2) := by
      rw [Nat.one_mul, hfactor, ← Nat.mul_assoc]
      exact nearestEven_mul _ (Nat.two_pow_pos _)
    have hlt : n * 2 ^ (52 - n.log2) < 2 ^ 53 := by
      have hsum : n.log2 + 1 + (52 - n.log2) = 53 := by omega
      calc n * 2 ^ (52 - n.log2) < 2 ^ (n.log2 + 1) * 2 ^ (52 - n.log2) :=
            Nat.mul_lt_mul_of_pos_right Nat.lt_log2_self (Nat.two_pow_pos _)
        _ = 2 ^ 53 := by rw [← Nat.pow_add, hsum]
    have hrange : n.log2 + 1022 ≤ 2045 := by omega
    refine ⟨n * 2 ^ (52 - n.log2), n.log2 + 1022, ?_, ?_⟩
    · rw [round, hpower, hexact, if_neg hlt.ne, pack, if_pos hrange]
    · rw [scaled, hfactor, Nat.mul_assoc]

/-! ## Numbers in decimal digits -/

theorem takeDigits_append {digits rest : List Char} (hd : ∀ c ∈ digits, c.isDigit = true)
    (hr : rest.head?.all (fun c => !c.isDigit) = true) :
    takeDigits (digits ++ rest) = (Nat.ofDigitChars 10 digits 0, digits.length, rest) := by
  have htake : rest.takeWhile Char.isDigit = [] ∧ rest.dropWhile Char.isDigit = rest := by
    cases rest with
    | nil => exact ⟨rfl, rfl⟩
    | cons c rest =>
      have hc : ¬c.isDigit = true := by simpa using hr
      exact ⟨List.takeWhile_cons_of_neg hc, List.dropWhile_cons_of_neg hc⟩
  rw [takeDigits, List.takeWhile_append_of_pos hd, List.dropWhile_append_of_pos hd, htake.1, htake.2,
    List.append_nil, Nat.ofDigitChars_eq_foldl]

theorem takeMantissa_decimal (n : Nat) : takeMantissa (Text.decimal n).toList = some (⟨n, 0⟩, []) := by
  have hdigits : takeDigits ((Text.decimal n).toList ++ []) = _ :=
    takeDigits_append (fun c => Text.isDigit_of_mem_decimal) rfl
  have hvalue : Nat.ofDigitChars 10 (Text.decimal n).toList 0 = n := by
    rw [Text.decimal, String.toList_ofList, Nat.ofDigitChars_ten_toDigits]
  have hlength : (Text.decimal n).toList.length ≠ 0 :=
    fun h => Text.decimal_ne_empty n (List.length_eq_zero_iff.1 h)
  rw [List.append_nil, hvalue] at hdigits
  rw [takeMantissa, hdigits]
  exact if_neg hlength

/-- No digit is the first letter of a name. -/
theorem unsigned?_of_isDigit {negative : Bool} {c : Char} {rest : List Char} {d : Decimal}
    (hc : c.isDigit = true) (h : takeMantissa (c :: rest) = some (d, [])) :
    unsigned? negative (c :: rest) = some (ofDecimal negative d) := by
  have hname : ∀ name : List Char, name.head?.any Char.isDigit = false →
      (c :: rest).map Char.toLower ≠ name := by
    rintro _ hhead rfl
    simp [Text.toLower_of_isDigit hc, hc] at hhead
  rw [unsigned?.eq_def]
  simp only [hname _ (by decide : "inf".toList.head?.any Char.isDigit = false),
    hname _ (by decide : "infinity".toList.head?.any Char.isDigit = false),
    hname _ (by decide : "nan".toList.head?.any Char.isDigit = false), or_self, if_false, h,
    Option.bind_some, exponent?, Option.map_some, Int.add_zero]

/-- A digit is no sign. -/
theorem ofText?_of_isDigit {s : String} {c : Char} {rest : List Char} (hs : s.toList = c :: rest)
    (hc : c.isDigit = true) : ofText? s = unsigned? false (c :: rest) := by
  rw [ofText?, hs]
  split
  · simp_all
  · simp_all
  · rfl

theorem digitCount_le {n : Nat} (h : n < 2 ^ 53) : digitCount n ≤ 16 :=
  (Nat.length_toDigits_le_iff (by decide) (by decide)).2 (Nat.lt_trans h (by decide))

theorem ofDecimal_natural {n : Nat} (h : n < 2 ^ 53) :
    ∃ m p, ofDecimal false ⟨n, 0⟩ = finite false m p ∧ scaled m p = n * unit := by
  by_cases hn : n = 0
  · exact ⟨0, 0, by simp [ofDecimal, hn, zero], by simp [scaled, hn]⟩
  · obtain ⟨m, p, hround, hvalue⟩ := round_natural h
    have hcount : digitCount n ≤ 16 := digitCount_le h
    refine ⟨m, p, ?_, hvalue⟩
    have hfinite : ¬((digitCount n : Int) + 0 ≤ -324) ∧ ¬(310 ≤ (digitCount n : Int) + 0) := by omega
    rw [ofDecimal, if_neg (not_or.2 ⟨hn, hfinite.1⟩), if_neg hfinite.2]
    simpa using hround

/-- Digits read as the number that they write. -/
theorem ofText?_decimal {n : Nat} (h : n < 2 ^ 53) :
    ∃ m p, ofText? (Text.decimal n) = some (finite false m p) ∧ scaled m p = n * unit := by
  obtain ⟨m, p, hread, hvalue⟩ := ofDecimal_natural h
  refine ⟨m, p, ?_, hvalue⟩
  have hmantissa := takeMantissa_decimal n
  cases hs : (Text.decimal n).toList with
  | nil => exact absurd hs (Text.decimal_ne_empty n)
  | cons c rest =>
    have hc : c.isDigit = true := Text.isDigit_of_mem_decimal (n := n) (by simp [hs])
    rw [hs] at hmantissa
    rw [ofText?_of_isDigit hs hc, unsigned?_of_isDigit hc hmantissa, hread]

theorem truncate_natural {n limit m p : Nat} (h : n ≤ limit) (hs : scaled m p = n * unit) :
    truncate limit (finite false m p) = n := by
  rw [truncate, hs, Nat.mul_div_cancel n unit_pos]
  exact Nat.min_eq_right h

theorem ceilTimes_natural {n limit factor m p : Nat} (hs : scaled m p = n * unit) :
    ceilTimes limit factor (finite false m p) = some (min limit (n * factor)) := by
  have hwhole : (n * unit * factor + (unit - 1)) / unit = n * factor := by
    rw [Nat.mul_right_comm, Nat.mul_comm (n * factor) unit, Nat.mul_add_div unit_pos,
      Nat.div_eq_of_lt (Nat.sub_one_lt unit_pos.ne'), Nat.add_zero]
  rw [ceilTimes, hs, hwhole]
  simp

/-! ## Powers of two -/

/-- How many bits a unit lies below one. -/
def unitBits : Nat := 1074

theorem unit_eq : unit = 2 ^ unitBits := by rw [unit, unitBits]

/-- The value of `2 ^ e` units; infinite above the largest power. -/
def twoPow (e : Nat) : Binary64 := pack false (2 ^ (e - (e - 52))) (e - 52)

/-- A quotient of powers of two is its own rounding. -/
theorem round_two_pow {j i : Nat} (h : i ≤ j + unitBits) :
    round false (2 ^ j) (2 ^ i) = twoPow (j + unitBits - i) := by
  have hquotient : 2 ^ j * unit / 2 ^ i = 2 ^ (j + unitBits - i) := by
    rw [unit_eq, ← Nat.pow_add, Nat.pow_div h (by decide)]
  generalize he : j + unitBits - i = e at hquotient
  have hsum : j + unitBits = e - (e - 52) + (i + (e - 52)) := by omega
  have hexact : nearestEven (2 ^ j * unit) (2 ^ i * 2 ^ (e - 52)) = 2 ^ (e - (e - 52)) := by
    rw [unit_eq, ← Nat.pow_add, ← Nat.pow_add, hsum, Nat.pow_add]
    exact nearestEven_mul _ (Nat.two_pow_pos _)
  have hne : 2 ^ (e - (e - 52)) ≠ 2 ^ 53 := by
    intro hsame
    have := Nat.pow_right_injective (le_refl 2) hsame
    omega
  rw [round, hquotient, Nat.log2_two_pow, hexact, if_neg hne, twoPow]

theorem twoPow_of_le {e : Nat} (h : e ≤ 2097) :
    ∃ m p, twoPow e = finite false m p ∧ m ≠ 0 ∧ scaled m p = 2 ^ e := by
  refine ⟨2 ^ (e - (e - 52)), e - 52, ?_, (Nat.two_pow_pos _).ne', ?_⟩
  · rw [twoPow, pack, if_pos (by omega)]
  · rw [scaled, ← Nat.pow_add]
    congr 1
    omega

theorem twoPow_of_lt {e : Nat} (h : 2097 < e) : twoPow e = infinite false := by
  rw [twoPow, pack, if_neg (by omega)]

theorem one_eq : (1 : Binary64) = twoPow unitBits := by
  have hone := round_two_pow (j := 0) (i := 0) (Nat.zero_le _)
  rw [Nat.pow_zero, Nat.zero_add, Nat.sub_zero] at hone
  change ofNat 1 = _
  rw [ofNat, hone]

theorem two_eq : (2 : Binary64) = twoPow (unitBits + 1) := by
  have htwo := round_two_pow (j := 1) (i := 0) (Nat.zero_le _)
  rw [Nat.pow_one, Nat.pow_zero, Nat.add_comm 1, Nat.sub_zero] at htwo
  change ofNat 2 = _
  rw [ofNat, htwo]

theorem mul_of_exponents {a b : Nat} (hb : unitBits ≤ b) (ha : 2097 < b → unitBits ≤ a) :
    (twoPow a).mul (twoPow b) = twoPow (a + b - unitBits) := by
  have hbits : unitBits = 1074 := rfl
  rcases Nat.lt_or_ge 2097 a with hlarge | hle
  · rw [twoPow_of_lt hlarge, twoPow_of_lt (e := a + b - unitBits) (by omega)]
    rcases Nat.lt_or_ge 2097 b with hlarge' | hle'
    · rw [twoPow_of_lt hlarge']
      rfl
    · obtain ⟨n, q, hfinite, hne, -⟩ := twoPow_of_le hle'
      rw [hfinite, mul, if_neg hne]
      rfl
  · obtain ⟨m, p, hfinite, hne, hvalue⟩ := twoPow_of_le hle
    rcases Nat.lt_or_ge 2097 b with hlarge' | hle'
    · rw [twoPow_of_lt hlarge', twoPow_of_lt (e := a + b - unitBits) (by omega), hfinite, mul, if_neg hne]
      rfl
    · obtain ⟨n, q, hfinite', -, hvalue'⟩ := twoPow_of_le hle'
      have hround := round_two_pow (j := a + b) (i := unitBits + unitBits) (by omega)
      rw [Nat.pow_add, Nat.pow_add 2 unitBits, ← unit_eq] at hround
      rw [hfinite, hfinite', mul, hvalue, hvalue']
      refine hround.trans (congrArg twoPow ?_)
      omega

theorem mul_twoPow (a b : Nat) :
    (twoPow (unitBits + a)).mul (twoPow (unitBits + b)) = twoPow (unitBits + (a + b)) := by
  rw [mul_of_exponents (Nat.le_add_right _ _) fun _ => Nat.le_add_right _ _]
  exact congrArg twoPow (by omega)

theorem mul_one (e : Nat) : (twoPow e).mul 1 = twoPow e := by
  rw [one_eq, mul_of_exponents le_rfl fun h => absurd h (by decide), Nat.add_sub_cancel]

/-- Repeated squaring of two, with the squares made so far: each step doubles the exponent of the base. -/
theorem powFrom_twoPow (r b : Nat) {bits n : Nat} (h : n < 2 ^ bits) :
    powFrom (twoPow (unitBits + r)) (twoPow (unitBits + b)) bits n = twoPow (unitBits + (r + b * n)) := by
  induction bits generalizing r b n with
  | zero =>
    obtain rfl : n = 0 := by simpa using h
    rfl
  | succ bits ih =>
    have hhalf : n / 2 < 2 ^ bits := by
      rw [Nat.pow_succ] at h
      omega
    have hn : 2 * (n / 2) + n % 2 = n := Nat.div_add_mod n 2
    have hodd : (if n % 2 = 1 then (twoPow (unitBits + r)).mul (twoPow (unitBits + b))
        else twoPow (unitBits + r)) = twoPow (unitBits + (r + b * (n % 2))) := by
      rcases Nat.mod_two_eq_zero_or_one n with hbit | hbit
      · rw [hbit]
        rfl
      · rw [hbit, if_pos rfl, mul_twoPow, Nat.mul_one]
    rw [powFrom, hodd]
    split
    · rename_i hlast
      have hone : n % 2 = n := by omega
      rw [hone]
    · have hsum : r + b * (n % 2) + (b + b) * (n / 2) = r + b * n := by
        conv_rhs => rw [← hn]
        ring
      rw [mul_twoPow, ih _ _ hhalf, hsum]

/-- A power of two is exact, and infinite above the largest finite one. -/
theorem pow_two_natural (k : Nat) : (2 : Binary64).pow (k : Int) = twoPow (unitBits + k) := by
  have hbits : k < 2 ^ (k.log2 + 1) := Nat.lt_log2_self
  have hpow := powFrom_twoPow 0 1 hbits
  rw [Nat.zero_add, Nat.one_mul, Nat.add_zero, ← one_eq, ← two_eq] at hpow
  rw [pow, Int.natAbs_natCast, if_neg (by omega), hpow]

theorem round_zero {den : Nat} (h : 0 < den) : round false 0 den = zero false := by
  rw [round, Nat.zero_mul, Nat.zero_div, nearestEven_zero (Nat.mul_pos h (Nat.two_pow_pos _))]
  rfl

theorem zero_mul_one : (zero false).mul 1 = zero false := by
  obtain ⟨m, p, hfinite, -, hvalue⟩ := twoPow_of_le (e := unitBits) (by decide)
  rw [one_eq, hfinite, zero, mul, scaled, Nat.zero_mul]
  exact round_zero (Nat.mul_pos unit_pos unit_pos)

/-- The reciprocal of a power of two is exact as well, and zero where the power is infinite. -/
theorem one_div_twoPow (k : Nat) :
    (1 : Binary64).div (twoPow (unitBits + k)) = if k ≤ 1023 then twoPow (unitBits - k) else zero false := by
  have hbits : unitBits = 1074 := rfl
  obtain ⟨m, p, hfinite, hne, hvalue⟩ := twoPow_of_le (e := unitBits) (by decide)
  rw [one_eq]
  split
  · obtain ⟨n, q, hfinite', hne', hvalue'⟩ := twoPow_of_le (e := unitBits + k) (by omega)
    rw [hfinite, hfinite', div, if_neg hne', hvalue, hvalue']
    refine (round_two_pow (by omega)).trans (congrArg twoPow ?_)
    omega
  · rw [twoPow_of_lt (e := unitBits + k) (by omega), hfinite]
    rfl

theorem pow_two_neg (k : Nat) (hk : 0 < k) :
    (2 : Binary64).pow (-(k : Int)) = if k ≤ 1023 then twoPow (unitBits - k) else zero false := by
  have hnat := pow_two_natural k
  rw [pow, Int.natAbs_natCast, if_neg (by omega)] at hnat
  rw [pow, Int.natAbs_neg, Int.natAbs_natCast, if_pos (by omega), hnat, one_div_twoPow]

end Steward.Binary64
