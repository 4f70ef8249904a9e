/-
The calls that the steps of a plan are grouped into. Neighbouring changes of the configuration that
depend on the same thing go into one update, but a drive is detached in an update of its own, so that
its slot can be used again within the pass. All other steps stand alone.
-/
import Steward.Intent
import Steward.Request

namespace Steward

/-- One or more steps that succeed or fail together. -/
structure Batch where
  first : Intent
  others : List Intent
  deriving DecidableEq, Repr

namespace Batch

def intents (b : Batch) : List Intent := b.first :: b.others

/-- All changes of the steps in one request, of two for one parameter the later one. -/
def request (b : Batch) : UpdateRequest where
  set := .ofList (Desired.settings b.intents)
  delete := b.intents.filterMap fun i =>
    match i.op with
    | .delete param => some param
    | _ => none

end Batch

/-- Whether two neighbouring steps go into one call. -/
def Intent.joins (a b : Intent) : Bool :=
  a.op.isConfigChange && b.op.isConfigChange && a.dependency == b.dependency &&
    (a.reason == .cloudInitDetach) == (b.reason == .cloudInitDetach)

/-- Steps in their order, grouped into calls. -/
def batches : List Intent → List Batch
  | [] => []
  | i :: rest =>
    match batches rest with
    | b :: more => if i.joins b.first then ⟨i, b.intents⟩ :: more else ⟨i, []⟩ :: b :: more
    | [] => [⟨i, []⟩]

/-- Grouping loses nothing and keeps the order. -/
theorem intents_batches (is : List Intent) : (batches is).flatMap Batch.intents = is := by
  induction is with
  | nil => rfl
  | cons i rest ih =>
    unfold batches
    cases hb : batches rest with
    | nil => simp_all [Batch.intents]
    | cons b more =>
      rw [hb] at ih
      by_cases hj : i.joins b.first <;> simp_all [Batch.intents]

end Steward
