/-
Work that takes time. Steps run on a state from some moment on and end with a result at a later
moment. They may panic instead, which nothing around them survives, or they are cut off: by a deadline
that passes first, or because they never end. Moments and durations are whole nanoseconds. What finishes
exactly at its deadline is in time, and of two deadlines the inner one counts when both are the same.
-/
namespace Steward

/-- A length of time in nanoseconds. -/
abbrev Duration := Nat

namespace Duration

def seconds (n : Nat) : Duration := n * 1000000000

def milliseconds (n : Nat) : Duration := n * 1000000

def wholeSeconds (d : Duration) : Nat := d / 1000000000

def wholeMilliseconds (d : Duration) : Nat := d / 1000000

end Duration

namespace Clock

/-- The clock counts seconds in 63 bits; from here on it tells no moment. -/
def limit : Nat := Duration.seconds (2 ^ 63)

/-- The moment at which a length of time from some moment on is over; none if the clock cannot tell it. -/
def after? (t : Nat) (d : Duration) : Option Nat := if t + d < limit then some (t + d) else none

/-- When a timer goes off: one for a moment that the clock cannot tell is set to thirty years. -/
def alarm (t : Nat) (d : Duration) : Nat := (after? t d).getD (t + Duration.seconds (86400 * 365 * 30))

theorem after?_eq_some_iff {t : Nat} {d : Duration} {u : Nat} :
    after? t d = some u ↔ t + d < limit ∧ t + d = u := by
  rw [after?]
  split
  · simp_all
  · simp only [reduceCtorEq, false_iff, not_and]
    exact fun h => absurd h ‹_›

theorem after?_eq_none_iff {t : Nat} {d : Duration} : after? t d = none ↔ limit ≤ t + d := by
  rw [after?]
  split <;> simp_all

theorem alarm_of_lt {t : Nat} {d : Duration} (h : t + d < limit) : alarm t d = t + d := by
  rw [alarm, after?_eq_some_iff.2 ⟨h, rfl⟩, Option.getD_some]

end Clock

/-- How steps end: with a result, the state they leave and the moment, in a panic at some moment, or cut off
in some state. -/
inductive Ending (σ ε α : Type)
  | done (result : Except ε α) (state : σ) (time : Nat)
  | panicked (state : σ) (time : Nat)
  | cut (state : σ)

/-- The state in which steps end. -/
def Ending.state {σ ε α : Type} : Ending σ ε α → σ
  | .done _ s _ | .panicked s _ | .cut s => s

/-- Steps on a state of type `σ`: they know their deadline, if there is one, the state and the moment. -/
def Steps (σ ε α : Type) : Type := (deadline : Option Nat) → (state : σ) → (time : Nat) → Ending σ ε α

namespace Steps

variable {σ ε α β : Type}

def pure (a : α) : Steps σ ε α := fun _ s t => .done (.ok a) s t

def throw (e : ε) : Steps σ ε α := fun _ s t => .done (.error e) s t

def bind (p : Steps σ ε α) (f : α → Steps σ ε β) : Steps σ ε β := fun deadline s t =>
  match p deadline s t with
  | .done (.ok a) s t => f a deadline s t
  | .done (.error e) s t => .done (.error e) s t
  | .panicked s t => .panicked s t
  | .cut s => .cut s

instance : Monad (Steps σ ε) where
  pure := pure
  bind := bind

/-- The result as a value, a failure included; a panic is no result. -/
def attempt (p : Steps σ ε α) : Steps σ ε (Except ε α) := fun deadline s t =>
  match p deadline s t with
  | .done r s t => .done (.ok r) s t
  | .panicked s t => .panicked s t
  | .cut s => .cut s

def ofExcept : Except ε α → Steps σ ε α
  | .ok a => pure a
  | .error e => throw e

/-- Steps with their failures in other words. -/
def mapError {ε' : Type} (f : ε → ε') (p : Steps σ ε α) : Steps σ ε' α := fun deadline s t =>
  match p deadline s t with
  | .done r s t => .done (r.mapError f) s t
  | .panicked s t => .panicked s t
  | .cut s => .cut s

/-- Steps that never end. -/
def never : Steps σ ε α := fun _ s _ => .cut s

def panic : Steps σ ε α := fun _ s t => .panicked s t

/-- The moment. -/
def now : Steps σ ε Nat := fun _ s t => .done (.ok t) s t

def get : Steps σ ε σ := fun _ s t => .done (.ok s) s t

def modify (f : σ → σ) : Steps σ ε Unit := fun _ s t => .done (.ok ()) (f s) t

/-- Whether a moment comes no later than the deadline. -/
def inTime (deadline : Option Nat) (time : Nat) : Bool := deadline.all fun d => decide (time ≤ d)

def sleep (d : Duration) : Steps σ ε Unit := fun deadline s t =>
  let wake := Clock.alarm t d
  if inTime deadline wake then .done (.ok ()) s wake else .cut s

/-- Steps that fail with `e` unless they end within `timeout`. -/
def within (timeout : Duration) (e : ε) (p : Steps σ ε α) : Steps σ ε α := fun deadline s t =>
  let late := Clock.alarm t timeout
  if inTime deadline late then
    match p (some late) s t with
    | .done r s t => .done r s t
    | .panicked s t => .panicked s t
    | .cut s => .done (.error e) s late
  else p deadline s t

end Steps

end Steward
