/-
The delays of the usual backoff, one second and twice as long each time. All of them are powers of two, so
that binary floating point computes them without error (`delay?_usual`). The limit is applied to a delay that
has been computed, so there is none at all where the power does not fit a length of time; and far beyond that
the exponent turns negative, and the delays are short once more (`usual_delays`).
-/
import Mathlib
import Steward.Proofs.Binary64
import Steward.Rest.Backoff

namespace Steward

open Binary64

namespace Duration

/-- A second halved so many times, to the nearest nanosecond. -/
def halvedSecond (k : Nat) : Duration := nearestEven (seconds 1) (2 ^ k)

theorem halvedSecond_antitone : Antitone halvedSecond :=
  antitone_nat_of_succ_le fun k => by
    rw [halvedSecond, halvedSecond, Nat.pow_succ]
    exact nearestEven_double_le _ _

theorem halvedSecond_le_second (k : Nat) : halvedSecond k ≤ seconds 1 :=
  (halvedSecond_antitone (Nat.zero_le k)).trans (by decide)

theorem halvedSecond_lt_second {k : Nat} (hk : 1 ≤ k) : halvedSecond k < seconds 1 :=
  (halvedSecond_antitone hk).trans_lt (by decide)

/-- So small a part of a second is no nanosecond. -/
theorem halvedSecond_eq_zero {k : Nat} (hk : 31 ≤ k) : halvedSecond k = 0 :=
  Nat.le_zero.1 ((halvedSecond_antitone hk).trans (by decide))

theorem toBinary64_second : toBinary64 (seconds 1) = 1 := by decide +kernel

/-- What is not negative is a length of time if that many seconds fit one. -/
theorem ofBinary64?_finite (m p : Nat) :
    ofBinary64? (finite false m p) =
      let d := nearestEven (scaled m p * seconds 1) unit
      if seconds (2 ^ 64) ≤ d then none else some d := by
  have hsecond : seconds 1 = 1000000000 := rfl
  simp only [ofBinary64?, hsecond, Bool.false_and, Bool.false_or, decide_eq_true_eq]

theorem ofBinary64?_twoPow (k : Nat) :
    ofBinary64? (twoPow (unitBits + k)) = if k < 64 then some (seconds (2 ^ k)) else none := by
  have hbits : unitBits = 1074 := rfl
  rcases Nat.lt_or_ge 2097 (unitBits + k) with hlarge | hle
  · rw [twoPow_of_lt hlarge, if_neg (by omega)]
    rfl
  · obtain ⟨m, p, hfinite, -, hvalue⟩ := twoPow_of_le hle
    have hexact : nearestEven (2 ^ (unitBits + k) * seconds 1) unit = seconds (2 ^ k) := by
      rw [Nat.pow_add, ← unit_eq, Nat.mul_comm unit, Nat.mul_right_comm, nearestEven_mul _ unit_pos, seconds,
        seconds, Nat.one_mul]
    have hfits : seconds (2 ^ 64) ≤ seconds (2 ^ k) ↔ ¬ k < 64 := by
      rw [seconds, seconds, Nat.mul_le_mul_right_iff (by decide), Nat.pow_le_pow_iff_right (by decide),
        Nat.not_lt]
    rw [hfinite, ofBinary64?_finite, hvalue, hexact]
    simp only [hfits, ite_not]

theorem ofBinary64?_twoPow_sub {k : Nat} (hk : k ≤ unitBits) :
    ofBinary64? (twoPow (unitBits - k)) = some (halvedSecond k) := by
  have hbits : unitBits = 1074 := rfl
  obtain ⟨m, p, hfinite, -, hvalue⟩ := twoPow_of_le (e := unitBits - k) (by omega)
  have hexact : nearestEven (2 ^ (unitBits - k) * seconds 1) unit = halvedSecond k := by
    have hsplit : unit = 2 ^ (unitBits - k) * 2 ^ k := by rw [unit_eq, ← Nat.pow_add, Nat.sub_add_cancel hk]
    rw [hsplit, nearestEven_scale (Nat.two_pow_pos _), halvedSecond]
  have hfits : ¬ seconds (2 ^ 64) ≤ halvedSecond k :=
    Nat.not_le.2 ((halvedSecond_le_second k).trans_lt (by decide))
  rw [hfinite, ofBinary64?_finite, hvalue, hexact, if_neg hfits]

theorem ofBinary64?_zero : ofBinary64? (zero false) = some 0 := by
  rw [zero, ofBinary64?_finite, scaled, Nat.zero_mul, nearestEven_zero unit_pos]
  exact if_neg (by decide)

end Duration

namespace Backoff

open Duration

theorem exponent_of_le {attempt : UInt32} (h : attempt.toNat ≤ 2 ^ 31) :
    exponent attempt = ((attempt.toNat - 1 : Nat) : Int) := by
  rw [exponent]
  exact if_pos (by omega)

/-- From `2 ^ 31` on an exponent is taken for a negative one. -/
theorem exponent_of_lt {attempt : UInt32} (h : 2 ^ 31 < attempt.toNat) :
    exponent attempt = -((2 ^ 32 + 1 - attempt.toNat : Nat) : Int) := by
  have hlt : attempt.toNat < 2 ^ 32 := attempt.toNat_lt
  rw [exponent, if_neg (by omega)]
  omega

/-- So many seconds, doubled and limited. -/
def limitedSeconds (n : Nat) : Duration := min (seconds (2 ^ n)) (seconds 30)

theorem limitedSeconds_mono : Monotone limitedSeconds := fun _ _ h =>
  min_le_min_right _ (Nat.mul_le_mul_right _ (Nat.pow_le_pow_right (by decide) h))

theorem second_le_limitedSeconds (n : Nat) : seconds 1 ≤ limitedSeconds n :=
  le_trans (by decide) (limitedSeconds_mono (Nat.zero_le n))

/-- The delays of the usual backoff: seconds, doubled and limited, as long as they fit a length of time; then
none; and after that parts of a second. -/
theorem delay?_usual (attempt : UInt32) :
    ({} : Backoff).delay? attempt =
      if 2 ^ 31 < attempt.toNat then some (halvedSecond (2 ^ 32 + 1 - attempt.toNat))
      else if attempt.toNat ≤ 64 then some (limitedSeconds (attempt.toNat - 1))
      else none := by
  have hlt : attempt.toNat < 2 ^ 32 := attempt.toNat_lt
  rw [delay?, toBinary64_second]
  split
  · rename_i hfar
    have hlimit (k : Nat) : min (halvedSecond k) (seconds 30) = halvedSecond k :=
      min_eq_left ((halvedSecond_le_second k).trans (by decide))
    rw [exponent_of_lt hfar, pow_two_neg _ (by omega)]
    split
    · rename_i hsmall
      rw [mul_one, ofBinary64?_twoPow_sub (hsmall.trans (by decide)), Option.map_some, hlimit]
    · rename_i hlarge
      rw [zero_mul_one, ofBinary64?_zero, halvedSecond_eq_zero (by omega)]
      rfl
  · rename_i hnear
    have hexponent : attempt.toNat - 1 < 64 ↔ attempt.toNat ≤ 64 := by omega
    rw [exponent_of_le (Nat.le_of_not_lt hnear), pow_two_natural, mul_one, ofBinary64?_twoPow]
    simp only [hexponent]
    split <;> rfl

/-- A delay is one of two kinds: limited seconds, or far behind them a part of a second. -/
theorem delay?_usual_cases {attempt : UInt32} {d : Duration}
    (h : ({} : Backoff).delay? attempt = some d) :
    attempt.toNat ≤ 64 ∧ d = limitedSeconds (attempt.toNat - 1) ∨
      2 ^ 31 < attempt.toNat ∧ d = halvedSecond (2 ^ 32 + 1 - attempt.toNat) := by
  rw [delay?_usual] at h
  split_ifs at h with hfar hnear
  · exact .inr ⟨hfar, (Option.some.inj h).symm⟩
  · exact .inl ⟨hnear, (Option.some.inj h).symm⟩

/-- What holds of the usual backoff for each attempt and those before it. There is a delay up to attempt 64
and again after attempt `2 ^ 31`, and none between them. No delay is above the limit. A delay is no shorter
than an earlier one, unless the earlier one is of the first kind and this one of the second. -/
theorem usual_delays (earlier attempt : UInt32) (h : earlier ≤ attempt) :
    ((({} : Backoff).delay? attempt).isSome = true ↔ attempt.toNat ≤ 64 ∨ 2 ^ 31 < attempt.toNat) ∧
    (∀ d, ({} : Backoff).delay? attempt = some d → d ≤ ({} : Backoff).limit) ∧
    ∀ c d, ({} : Backoff).delay? earlier = some c → ({} : Backoff).delay? attempt = some d →
      (c ≤ d ↔ attempt.toNat ≤ 64 ∨ 2 ^ 31 < earlier.toNat) := by
  have horder : earlier.toNat ≤ attempt.toNat := UInt32.le_iff_toNat_le.1 h
  refine ⟨?_, fun d hd => ?_, fun c d hc hd => ?_⟩
  · rw [delay?_usual]
    split_ifs with hfar hnear <;> simp [*]
  · rcases delay?_usual_cases hd with ⟨-, rfl⟩ | ⟨-, rfl⟩
    · exact min_le_right _ _
    · exact (halvedSecond_le_second _).trans (by decide)
  · have hlast : attempt.toNat < 2 ^ 32 := attempt.toNat_lt
    rcases delay?_usual_cases hc with ⟨hearlier, rfl⟩ | ⟨hearlier, rfl⟩ <;>
      rcases delay?_usual_cases hd with ⟨hattempt, rfl⟩ | ⟨hattempt, rfl⟩
    · exact iff_of_true (limitedSeconds_mono (Nat.sub_le_sub_right horder 1)) (.inl hattempt)
    · -- at most a quarter of a second, after a second at least
      refine iff_of_false (Nat.not_le.2 ?_) (by omega)
      exact (halvedSecond_lt_second (by omega)).trans_le (second_le_limitedSeconds _)
    · omega
    · exact iff_of_true (halvedSecond_antitone (Nat.sub_le_sub_left horder _)) (.inr hearlier)

/-- After the tenth attempt the limit is waited for. After the sixty-fifth there is no delay, and after the last
one that can be counted a quarter of a second. -/
theorem usual_delays_manyAttempts :
    (10 : UInt32) ≤ 65 ∧ (10 : UInt32) ≤ 4294967295 ∧ ({} : Backoff).delay? 10 = some (seconds 30) ∧
      ({} : Backoff).delay? 65 = none ∧ ({} : Backoff).delay? 4294967295 = some (milliseconds 250) ∧
      ¬ seconds 30 ≤ milliseconds 250 := by
  have hmiddle : (10 : UInt32) ≤ 65 := by decide
  have hlast : (10 : UInt32) ≤ 4294967295 := by decide
  have hlong : ({} : Backoff).delay? 10 = some (seconds 30) := by decide +kernel
  have hshort : ({} : Backoff).delay? 4294967295 = some (milliseconds 250) := by decide +kernel
  have hnone := (usual_delays 10 65 hmiddle).1.not.2 (by decide)
  have hless := ((usual_delays 10 4294967295 hlast).2.2 _ _ hlong hshort).not.2 (by decide)
  exact ⟨hmiddle, hlast, hlong, Option.not_isSome_iff_eq_none.1 hnone, hshort, hless⟩

end Backoff

end Steward
