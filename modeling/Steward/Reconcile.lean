/-
Passes over an instance: read it, plan, carry the plan out, and read again to confirm that nothing is
left to do. `apply` creates the instance first if it does not exist.
-/
import Steward.Execution
import Steward.Observed
import Steward.Plan.Pass

namespace Steward

inductive PassOutcome
  | created
  | applied
  | noChanges
  /-- The instance does not exist any more. -/
  | deleted
  deriving DecidableEq, Repr

def PassOutcome.toText : PassOutcome → String
  | created => "created"
  | applied => "applied"
  | noChanges => "no changes"
  | deleted => "deleted"

structure Report where
  identity : Identity
  outcome : PassOutcome
  plan : Plan
  applied : Applied
  /-- How long the steps of the plan took. -/
  duration : Duration
  failures : List Failure
  /-- After the pass a new plan had no steps. -/
  converged : Bool

namespace Report

def deleted (identity : Identity) : Report := ⟨identity, .deleted, .empty, .empty, 0, [], true⟩

def isSuccess (r : Report) : Bool := r.failures.isEmpty

/-- All failures of the pass as one. -/
def failure? (r : Report) : Option Failure := Failure.aggregate r.failures

end Report

namespace Reconciler

variable {σ : Type} (r : Reconciler σ)

def read (id : Identity) : Steps (World σ) Failure Observed := do
  let remote ← r.hypervisor.call (.configuration id)
  let status ← r.hypervisor.call (.status id)
  Steps.ofExcept (Remote.observe remote id status)

/-- What an instance is like; none if there is no such instance. -/
def read? (id : Identity) : Steps (World σ) Failure (Option Observed) := do
  match ← (r.read id).attempt with
  | .ok observed => pure (some observed)
  | .error failure => if failure.isNotFound then pure none else Steps.throw failure

/-- The plan of a pass, and what it was made from; none if there is no such instance. -/
def plan (desired : Desired) (id : Identity) (copied : Bool) :
    Steps (World σ) Failure (Option (Observed × PlanOutcome)) := do
  let observed? ← r.read? id
  pure (observed?.map fun observed => (observed, Plan.planPass desired observed copied))

/-- Whether nothing is left to do, and the failures by which that cannot be told. -/
def confirm (desired : Desired) (id : Identity) (copied : Bool) :
    Steps (World σ) Failure (Bool × List Failure) := do
  match ← (r.plan desired id copied).attempt with
  | .ok (some (_, outcome)) => pure (!outcome.plan.hasChanges, [])
  | .ok none => pure (false, [.notFound id.toText])
  | .error failure => pure (false, [failure])

/-- A pass over an instance that is there, with the plan made for it. -/
def carryOut (desired : Desired) (observed : Observed) (copied : Bool) (outcome : PlanOutcome) :
    Steps (World σ) Failure Report := do
  let start ← Steps.now
  let done ← r.execute observed.identity outcome.plan observed.status
  let finish ← Steps.now
  let failures := outcome.failures ++ done.failures
  let (converged, more) ←
    if failures.isEmpty then r.confirm desired done.identity copied else pure (false, [])
  pure ⟨done.identity, .applied, outcome.plan, done.applied, finish - start, failures ++ more, converged⟩

def pass (desired : Desired) (id : Identity) (copied : Bool) : Steps (World σ) Failure Report := do
  match ← r.plan desired id copied with
  | none => pure (.deleted id)
  | some (observed, outcome) =>
    if outcome.plan.hasChanges then r.carryOut desired observed copied outcome
    else pure ⟨id, .noChanges, outcome.plan, .empty, 0, outcome.failures, outcome.isClean⟩

/-- A pass over an existing instance. One that is declared as a copy keeps what it inherited, in this
pass and in all later ones. -/
def reconcile (desired : Desired) (id : Identity) : Steps (World σ) Failure Report :=
  r.pass desired id desired.clone.isSome

/-- A copy, ready to be changed: the task that makes it has let go of its configuration. -/
def copy (source : Identity) (request : CloneRequest) (attempts : UInt32) :
    Steps (World σ) Failure Identity := do
  let newId : UInt32 ← r.hypervisor.callWithin ("clone of " ++ source.toText) r.timeouts.clone
    (.clone source request attempts)
  let id := { source with id := newId }
  r.hypervisor.waitFor id .unlocked ⟨r.interval, r.timeouts.clone⟩
  pure id

/-- A new instance, created or copied: where it is. -/
def provision (desired : Desired) : Steps (World σ) Failure Identity :=
  match desired.clone, desired.cloneRequest? with
  | some clone, some (source, request) => r.copy source request clone.retries
  | _, _ => do
    let request ← Steps.ofExcept desired.createRequest
    let newId : UInt32 ← r.hypervisor.callWithin ("create on " ++ desired.node) r.timeouts.create
      (.create desired.node request)
    pure (desired.identity newId)

/-- A new instance and the first pass over it. -/
def create (desired : Desired) : Steps (World σ) Failure Report := do
  let id ← r.provision desired
  let report ← r.pass desired id desired.clone.isSome
  pure { report with outcome := .created }

/-- Whether the instance that is declared by its number exists. -/
def declared? (desired : Desired) : Steps (World σ) Failure (Option Identity) :=
  match desired.id with
  | none => pure none
  | some n => do
    let id := desired.identity n
    match ← (r.hypervisor.call (.status id)).attempt with
    | .ok _ => pure (some id)
    | .error failure => if failure.isNotFound then pure none else Steps.throw failure

/-- A pass over the instance that is declared, which is created if it does not exist. -/
def apply (desired : Desired) : Steps (World σ) Failure Report := do
  match ← r.declared? desired with
  | some id => r.reconcile desired id
  | none => r.create desired

end Reconciler

end Steward
