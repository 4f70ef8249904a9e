/-
Delays between attempts, each by a factor longer than the one before, up to a limit. A delay is computed
in seconds as binary floating point; one that is no length of time does not exist.
-/
import Steward.Binary64
import Steward.Steps

namespace Steward

/-- The nearest length of time to so many seconds, a tie to the even number of nanoseconds; none if that
is negative or `2 ^ 64` seconds or more. -/
def Duration.ofBinary64? : Binary64 → Option Duration
  | .finite negative m p =>
    let d := nearestEven (Binary64.scaled m p * 1000000000) Binary64.unit
    if (negative && m != 0) || Duration.seconds (2 ^ 64) ≤ d then none else some d
  | _ => none

/-- The seconds of a length of time. -/
def Duration.toBinary64 (d : Duration) : Binary64 :=
  (Binary64.ofNat (d / 1000000000)).addPositive ((Binary64.ofNat (d % 1000000000)).div 1000000000)

structure Backoff where
  /-- How often a call is made, the first time included. -/
  maxAttempts : UInt32 := 3
  initial : Duration := .seconds 1
  limit : Duration := .seconds 30
  factor : Binary64 := 2
  deriving DecidableEq

namespace Backoff

/-- How often the factor counts before the attempt after attempt number `attempt`: numbers from `2 ^ 31`
on stand for negative ones. -/
def exponent (attempt : UInt32) : Int :=
  let n := attempt.toNat - 1
  if n < 2 ^ 31 then n else (n : Int) - 2 ^ 32

/-- The delay after attempt number `attempt`, counted from one. -/
def delay? (b : Backoff) (attempt : UInt32) : Option Duration :=
  (Duration.ofBinary64? ((b.factor.pow (exponent attempt)).mul (Duration.toBinary64 b.initial))).map
    fun d => min d b.limit

/-- The pause after an attempt; to ask for a delay that does not exist is a panic. -/
def pause {σ ε : Type} (b : Backoff) (attempt : Nat) : Steps σ ε Unit :=
  match b.delay? (UInt32.ofNat attempt) with
  | some d => Steps.sleep d
  | none => Steps.panic

end Backoff

end Steward
