/-
Binary floating point with 53 bits of precision, as exact arithmetic on naturals: a finite value is
`± significand * 2 ^ power / 2 ^ 1074`, and every operation takes the exact result and rounds it once,
to the nearest value, a tie to the even significand. No machine float is involved, so that sizes,
rates and delays can be computed and reasoned about alike.
-/
namespace Steward

-- Powers of numbers are the ones of core, also where powers of all monoids are known.
attribute [instance (1500)] instPowNat
attribute [default_instance 20000] instPowNat

/-- `finite negative m p` stands for `± m * 2 ^ p / 2 ^ 1074`. What `round` returns is in lowest power:
`m < 2 ^ 53`, and `2 ^ 52 ≤ m` unless `p = 0`. -/
inductive Binary64
  | nan
  | infinite (negative : Bool)
  | finite (negative : Bool) (significand power : Nat)
  deriving DecidableEq, Repr

/-- The quotient of two naturals to the nearest natural, a tie to the even one. -/
def nearestEven (num den : Nat) : Nat :=
  let q := num / den
  let r := num % den
  if 2 * r < den then q
  else if 2 * r = den then q + q % 2
  else q + 1

namespace Binary64

/-- The units in which finite values are whole: one is `1 / unit`. -/
def unit : Nat := 2 ^ 1074

/-- The value `± m * 2 ^ p / 2 ^ 1074`, infinite above the largest power. -/
def pack (negative : Bool) (m p : Nat) : Binary64 := if p ≤ 2045 then finite negative m p else infinite negative

/-- The value nearest to `± num / den`; infinite from half a step above the largest finite value. -/
def round (negative : Bool) (num den : Nat) : Binary64 :=
  let a := num * unit
  let p := (a / den).log2 - 52
  let m := nearestEven a (den * 2 ^ p)
  if m = 2 ^ 53 then pack negative (2 ^ 52) (p + 1) else pack negative m p

def zero (negative : Bool) : Binary64 := finite negative 0 0

def ofNat (n : Nat) : Binary64 := round false n 1

instance : OfNat Binary64 n := ⟨ofNat n⟩

/-- The magnitude of a finite value in units. -/
def scaled (significand power : Nat) : Nat := significand * 2 ^ power

def neg : Binary64 → Binary64
  | nan => nan
  | infinite s => infinite !s
  | finite s m p => finite (!s) m p

def isZero : Binary64 → Bool
  | finite _ m _ => m == 0
  | _ => false

def mul : Binary64 → Binary64 → Binary64
  | nan, _ | _, nan => nan
  | infinite s, infinite t => infinite (s != t)
  | infinite s, finite t m _ | finite t m _, infinite s => if m = 0 then nan else infinite (s != t)
  | finite s m p, finite t n q => round (s != t) (scaled m p * scaled n q) (unit * unit)

def div : Binary64 → Binary64 → Binary64
  | nan, _ | _, nan => nan
  | infinite _, infinite _ => nan
  | infinite s, finite t _ _ => infinite (s != t)
  | finite s _ _, infinite t => zero (s != t)
  | finite s m p, finite t n q =>
    if n = 0 then if m = 0 then nan else infinite (s != t)
    else round (s != t) (scaled m p) (scaled n q)

/-- The sum of two values that are not negative; `nan` for others. -/
def addPositive : Binary64 → Binary64 → Binary64
  | finite false m p, finite false n q => round false (scaled m p + scaled n q) unit
  | infinite false, finite false _ _ | finite false _ _, infinite false
  | infinite false, infinite false => infinite false
  | _, _ => nan

/-- Comparison as numbers: the two zeros are equal, and `nan` equals nothing. -/
def equals : Binary64 → Binary64 → Bool
  | finite s m p, finite t n q => scaled m p == scaled n q && (s == t || m == 0)
  | infinite s, infinite t => s == t
  | _, _ => false

/-- A value without its fraction, and at least zero and at most `limit`; zero for `nan`. -/
def truncate (limit : Nat) : Binary64 → Nat
  | finite false m p => min limit (scaled m p / unit)
  | infinite false => limit
  | _ => 0

/-- The least natural that is no less than `x * factor`, at most `limit`; `none` if `x` is negative or
not finite. -/
def ceilTimes (limit factor : Nat) : Binary64 → Option Nat
  | finite s m p =>
    if s && m != 0 then none else some (min limit ((scaled m p * factor + (unit - 1)) / unit))
  | _ => none

/-- Powers by repeated squaring: `result * base ^ n`, with `bits` at least the number of bits of `n`. -/
def powFrom (result base : Binary64) : (bits n : Nat) → Binary64
  | 0, _ => result
  | bits + 1, n =>
    let result := if n % 2 = 1 then result.mul base else result
    if n / 2 = 0 then result else powFrom result (base.mul base) bits (n / 2)

/-- A whole power, each squaring and each factor rounded; a negative one is the reciprocal of the
positive one. -/
def pow (base : Binary64) (n : Int) : Binary64 :=
  let p := powFrom 1 base (n.natAbs.log2 + 1) n.natAbs
  if n < 0 then div 1 p else p

end Binary64

end Steward
