/-
What rounding returns is in lowest power, and a value in lowest power is the rounding of every number between
the halfway points to its neighbours, these included where its significand is even. Below a power of two the
neighbour is half as far away as above it: the numbers there round with the smaller power, up to the next one.
-/
import Mathlib
import Steward.Proofs.Binary64

namespace Steward.Binary64

/-- In lowest power: 53 bits of significand, all of them in use unless the power is the least one. -/
def Canonical : Binary64 → Prop
  | finite _ m p => m < 2 ^ 53 ∧ (2 ^ 52 ≤ m ∨ p = 0) ∧ p ≤ 2045
  | _ => True

/-! ## The power of a rounded value -/

theorem div_power_lt (n : Nat) : n / 2 ^ (n.log2 - 52) < 2 ^ 53 := by
  rw [Nat.div_lt_iff_lt_mul (Nat.two_pow_pos _), ← Nat.pow_add]
  exact Nat.lt_of_lt_of_le Nat.lt_log2_self (Nat.pow_le_pow_right (by decide) (by omega))

theorem le_div_power {n : Nat} (h : n.log2 - 52 ≠ 0) : 2 ^ 52 ≤ n / 2 ^ (n.log2 - 52) := by
  have hn : n ≠ 0 := by
    rintro rfl
    exact h (by decide)
  rw [Nat.le_div_iff_mul_le (Nat.two_pow_pos _), ← Nat.pow_add, Nat.add_sub_cancel' (by omega)]
  exact Nat.log2_self_le hn

theorem power_eq {n p : Nat} (hlow : 2 ^ 52 * 2 ^ p ≤ n ∨ p = 0) (hhigh : n < 2 ^ 53 * 2 ^ p) :
    n.log2 - 52 = p := by
  rcases Nat.eq_zero_or_pos n with rfl | hn
  · rcases hlow with hlow | rfl
    · have := Nat.two_pow_pos p
      omega
    · decide
  · rw [← Nat.pow_add] at hhigh
    have hlt : n.log2 < 53 + p := (Nat.log2_lt hn.ne').2 hhigh
    rcases hlow with hlow | rfl
    · rw [← Nat.pow_add] at hlow
      have hle : 52 + p ≤ n.log2 := (Nat.le_log2 hn.ne').2 hlow
      omega
    · omega

theorem canonical_pack {m p : Nat} (negative : Bool) (hm : m < 2 ^ 53) (hp : 2 ^ 52 ≤ m ∨ p = 0) :
    (pack negative m p).Canonical := by
  rw [pack]
  split
  · exact ⟨hm, hp, ‹_›⟩
  · trivial

theorem canonical_round (negative : Bool) (num den : Nat) : (round negative num den).Canonical := by
  simp only [round]
  generalize num * unit = a
  generalize hp : (a / den).log2 - 52 = p
  have hlt : a / (den * 2 ^ p) < 2 ^ 53 := by
    rw [← Nat.div_div_eq_div_mul, ← hp]
    exact div_power_lt _
  have hle : 2 ^ 52 ≤ a / (den * 2 ^ p) ∨ p = 0 := by
    rw [or_iff_not_imp_right, ← Nat.div_div_eq_div_mul, ← hp]
    exact le_div_power
  have hfloor := le_nearestEven a (den * 2 ^ p)
  have hceil := nearestEven_le a (den * 2 ^ p)
  split
  · exact canonical_pack negative (by decide) (.inl le_rfl)
  · exact canonical_pack negative (by omega) (hle.imp_left fun h => h.trans hfloor)

/-! ## The numbers that round to a value -/

theorem nearestEven_eq {a c m : Nat} (hc : 0 < c) (hlow : 2 * (m * c) ≤ 2 * a + c)
    (hhigh : 2 * a ≤ 2 * (m * c) + c)
    (htie : 2 * a + c = 2 * (m * c) ∨ 2 * a = 2 * (m * c) + c → m % 2 = 0) : nearestEven a c = m := by
  have ha : c * (a / c) + a % c = a := Nat.div_add_mod a c
  have hr : a % c < c := Nat.mod_lt a hc
  simp only [nearestEven]
  generalize a / c = q at ha ⊢
  generalize a % c = r at ha hr ⊢
  subst ha
  have hle : q ≤ m := by
    by_contra hlt
    have : (m + 1) * c ≤ c * q := by
      rw [Nat.mul_comm c]
      exact Nat.mul_le_mul_right c (by omega)
    rw [Nat.add_mul] at this
    omega
  have hge : m ≤ q + 1 := by
    by_contra hlt
    have : c * (q + 2) ≤ m * c := by
      rw [Nat.mul_comm c]
      exact Nat.mul_le_mul_right c (by omega)
    rw [Nat.mul_add] at this
    omega
  -- the quotient is cut off or goes up by one
  obtain rfl | rfl : m = q ∨ m = q + 1 := by omega
  · rw [Nat.mul_comm m] at hlow hhigh htie
    split_ifs <;> omega
  · rw [Nat.add_mul, Nat.mul_comm q] at hlow hhigh htie
    split_ifs <;> omega

/-- Twice the distance from a value to the halfway point below it, in steps of its own power. -/
def gap (m p : Nat) : Nat := if m = 2 ^ 52 ∧ p ≠ 0 then 1 else 2

/-- `a / c` is no further from `m` than half a step, or `gap / 4` of one below it; at the far ends for even `m`
only. -/
@[mk_iff]
structure Rounds (m gap a c : Nat) : Prop where
  below : 4 * (m * c) ≤ 4 * a + gap * c
  above : 4 * a ≤ 4 * (m * c) + 2 * c
  tie : 4 * a + gap * c = 4 * (m * c) ∨ 4 * a = 4 * (m * c) + 2 * c → m % 2 = 0

theorem gap_le (m p : Nat) : gap m p ≤ 2 := by
  rw [gap]
  split <;> decide

theorem Rounds.scale {m gap a c k : Nat} (hk : 0 < k) :
    Rounds m gap (k * a) (k * c) ↔ Rounds m gap a c := by
  simp only [rounds_iff, Nat.mul_left_comm _ k, ← Nat.mul_add, Nat.mul_le_mul_left_iff hk,
    Nat.mul_right_inj hk.ne']

theorem Rounds.le_double {m p a c : Nat} (h : Rounds m (gap m p) a c) (hm : m ≠ 0) : c ≤ 2 * a := by
  have hone : 1 * c ≤ m * c := Nat.mul_le_mul_right c (by omega)
  have hgap : gap m p * c ≤ 2 * c := Nat.mul_le_mul_right c (gap_le m p)
  have := h.below
  omega

theorem Rounds.lt {m gap a c : Nat} (h : Rounds m gap a c) (hc : 0 < c) (hm : m < 2 ^ 53) : a < 2 ^ 53 * c := by
  have hsucc : (m + 1) * c ≤ 2 ^ 53 * c := Nat.mul_le_mul_right c hm
  rw [Nat.add_mul] at hsucc
  have := h.above
  omega

/-- Exact values round to themselves. -/
theorem rounds_exact {m p c : Nat} (hc : 0 < c) : Rounds m (gap m p) (m * c) c := by
  have hpos : 0 < gap m p * c := by
    refine Nat.mul_pos ?_ hc
    rw [gap]
    split <;> decide
  exact ⟨by omega, by omega, by omega⟩

theorem Rounds.nearestEven_eq {m p a c : Nat} (h : Rounds m (gap m p) a c) (hc : 0 < c) :
    nearestEven a c = m := by
  obtain ⟨hbelow, habove, htie⟩ := h
  by_cases hone : m = 2 ^ 52 ∧ p ≠ 0
  · rw [gap, if_pos hone] at hbelow
    exact Binary64.nearestEven_eq hc (by omega) (by omega) fun _ => by rw [hone.1]
  · rw [gap, if_neg hone] at hbelow htie
    exact Binary64.nearestEven_eq hc (by omega) (by omega) fun h => htie (by omega)

theorem mul_power_le_div {den k n p : Nat} (hden : 0 < den) :
    k * 2 ^ p ≤ n / den ↔ k * (den * 2 ^ p) ≤ n := by
  rw [Nat.le_div_iff_mul_le hden, Nat.mul_assoc, Nat.mul_comm den]

theorem div_lt_mul_power {den k n p : Nat} (hden : 0 < den) :
    n / den < k * 2 ^ p ↔ n < k * (den * 2 ^ p) := by
  rw [← Nat.not_le, ← Nat.not_le, mul_power_le_div hden]

/-- With the power of the value. -/
theorem round_of_le {negative : Bool} {num den m p : Nat} (hden : 0 < den)
    (hx : (finite negative m p).Canonical) (h : Rounds m (gap m p) (num * unit) (den * 2 ^ p))
    (hlow : 2 ^ 52 * 2 ^ p ≤ num * unit / den ∨ p = 0) : round negative num den = finite negative m p := by
  obtain ⟨hm, -, hrange⟩ := hx
  have hc : 0 < den * 2 ^ p := Nat.mul_pos hden (Nat.two_pow_pos p)
  have hhigh : num * unit / den < 2 ^ 53 * 2 ^ p := (div_lt_mul_power hden).2 (h.lt hc hm)
  simp only [round, power_eq hlow hhigh, h.nearestEven_eq hc, if_neg hm.ne, pack, if_pos hrange]

/-- Only a power of two is reached from numbers that are below the least one with its power. -/
theorem Rounds.eq_two_pow {m p a c : Nat} (h : Rounds m (gap m p) a c) (hm : 2 ^ 52 ≤ m)
    (ha : a < 2 ^ 52 * c) : m = 2 ^ 52 := by
  by_contra hne
  have hsucc : (2 ^ 52 + 1) * c ≤ m * c := Nat.mul_le_mul_right c (by omega)
  have hgap : gap m p * c ≤ 2 * c := Nat.mul_le_mul_right c (gap_le m p)
  have := h.below
  omega

/-- With the power below: from the halfway point up to a power of two, with all bits of the significand in
use, the numbers go up to the next power. -/
theorem round_of_lt {negative : Bool} {num den m p : Nat} (hden : 0 < den)
    (hx : (finite negative m (p + 1)).Canonical)
    (h : Rounds m (gap m (p + 1)) (num * unit) (den * 2 ^ (p + 1)))
    (hlow : num * unit / den < 2 ^ 52 * 2 ^ (p + 1)) : round negative num den = finite negative m (p + 1) := by
  obtain ⟨-, hm, hrange⟩ := hx
  have hc : 0 < den * 2 ^ p := Nat.mul_pos hden (Nat.two_pow_pos p)
  have hstep : den * 2 ^ (p + 1) = 2 * (den * 2 ^ p) := by
    rw [Nat.pow_succ]
    ring
  rw [div_lt_mul_power hden] at hlow
  rw [hstep] at h hlow
  obtain rfl := h.eq_two_pow (hm.resolve_right (by omega)) hlow
  -- a quarter of a step is half of a step of the power below, and a tie there goes to `2 ^ 53`, which is even
  have hbelow := h.below
  rw [gap, if_pos ⟨rfl, by omega⟩] at hbelow
  have hpower : (num * unit / den).log2 - 52 = p :=
    power_eq (.inl ((mul_power_le_div hden).2 (by omega))) ((div_lt_mul_power hden).2 (by omega))
  have hnearest : nearestEven (num * unit) (den * 2 ^ p) = 2 ^ 53 :=
    Binary64.nearestEven_eq hc (by omega) (by omega) fun _ => by decide
  simp only [round, hpower, hnearest, if_true, pack, if_pos hrange]

theorem round_eq_finite {negative : Bool} {num den m p : Nat} (hden : 0 < den)
    (hx : (finite negative m p).Canonical) (h : Rounds m (gap m p) (num * unit) (den * 2 ^ p)) :
    round negative num den = finite negative m p := by
  by_cases hlow : 2 ^ 52 * 2 ^ p ≤ num * unit / den ∨ p = 0
  · exact round_of_le hden hx h hlow
  · obtain ⟨hlow, hp⟩ := not_or.1 hlow
    obtain ⟨q, rfl⟩ := Nat.exists_eq_succ_of_ne_zero hp
    exact round_of_lt hden hx h (Nat.lt_of_not_le hlow)

end Steward.Binary64
