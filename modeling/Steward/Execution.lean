/-
Carrying out a plan, call by call. Nothing is rolled back: a failure is noted and the next call is made,
unless it depends on the one that failed. After a timeout, or a migration that failed, nothing more is
done, since it is not known in which state or on which node the instance is.
-/
import Steward.Plan.Batch
import Steward.Power
import Steward.Timeouts

namespace Steward

/-- Why a step was not tried. -/
inductive SkipReason
  | dependencyFailed
  | timedOut
  | migrationFailed
  deriving DecidableEq, Repr

def SkipReason.toText : SkipReason → String
  | dependencyFailed => "dependency failed"
  | timedOut => "pass aborted after a timeout"
  | migrationFailed => "pass aborted after a failed migration"

/-- What has become of the steps of a plan. -/
structure Applied where
  succeeded : List Intent
  failed : List (Intent × Failure)
  skipped : List (Intent × SkipReason)

namespace Applied

def empty : Applied := ⟨[], [], []⟩

def isSuccess (a : Applied) : Bool := a.failed.isEmpty && a.skipped.isEmpty

def succeed (a : Applied) (is : List Intent) : Applied := { a with succeeded := a.succeeded ++ is }

def fail (a : Applied) (is : List Intent) (why : Failure) : Applied :=
  { a with failed := a.failed ++ is.map fun i => (i, why) }

def skip (a : Applied) (is : List Intent) (why : SkipReason) : Applied :=
  { a with skipped := a.skipped ++ is.map fun i => (i, why) }

end Applied

/-- How far a plan has been carried out. -/
structure Progress where
  /-- Where the instance lives, migrations included. -/
  identity : Identity
  power : PowerState
  applied : Applied
  /-- One for each call that failed. -/
  failures : List Failure
  /-- The shutdown that opens the stopped window has failed. -/
  windowFailed : Bool
  /-- A change of the configuration has failed. -/
  configFailed : Bool
  /-- Nothing more is tried. -/
  aborted : Option SkipReason

namespace Progress

def initial (identity : Identity) (status : Status) : Progress :=
  ⟨identity, .ofStatus status, .empty, [], false, false, none⟩

/-- Whether what a step depends on has failed. -/
def isBlocked (p : Progress) : Dependency → Bool
  | .nothing => false
  | .stoppedWindow => p.windowFailed
  | .configApplied => p.configFailed

/-- Why a step is not tried, if it is not. -/
def skipReason? (p : Progress) (i : Intent) : Option SkipReason :=
  p.aborted <|> if p.isBlocked i.dependency then some .dependencyFailed else none

def skip (p : Progress) (b : Batch) (why : SkipReason) : Progress :=
  { p with applied := p.applied.skip b.intents why }

/-- After steps that succeeded and left the instance there and in that state. -/
def succeed (p : Progress) (b : Batch) (identity : Identity) (power : PowerState) : Progress :=
  { p with identity := identity, power := power, applied := p.applied.succeed b.intents }

def abortReason? (i : Intent) (why : Failure) : Option SkipReason :=
  match i.op with
  | .migrate _ => some .migrationFailed
  | _ => if why.isTimeout then some .timedOut else none

/-- After steps that failed. -/
def fail (p : Progress) (b : Batch) (why : Failure) : Progress :=
  { p with
    applied := p.applied.fail b.intents why
    failures := p.failures ++ [why]
    windowFailed := p.windowFailed || (b.first.op == .shutdown && b.first.reason == .stoppedWindow)
    configFailed := p.configFailed || b.first.op.isConfigChange
    aborted := abortReason? b.first why }

end Progress

/-- Who brings instances to their declared state: over which hypervisor, with how much patience. -/
structure Reconciler (σ : Type) where
  hypervisor : Hypervisor σ
  timeouts : Timeouts
  /-- The time between two readings of a status. -/
  interval : Duration

namespace Reconciler

variable {σ : Type} (r : Reconciler σ)

/-- A power action, which is not allowed to fail. -/
def actPower (id : Identity) (timeout : Duration) (action : PowerAction) (state : PowerState) :
    Steps (World σ) Failure (Identity × PowerState) := do
  let (result, state) ← r.hypervisor.power id r.interval timeout action state
  let _ ← Steps.ofExcept result
  pure (id, state)

/-- The calls of a batch on an instance; where the instance lives then, and its power state. -/
def act (id : Identity) (power : PowerState) (b : Batch) :
    Steps (World σ) Failure (Identity × PowerState) :=
  match b.first.op with
  | .update .. | .delete .. => do
    let () ← r.hypervisor.callWithin ("update of " ++ id.toText) r.timeouts.request (.update id b.request)
    pure (id, power)
  | .moveDisk interface datastore deleteOriginal => do
    let () ← r.hypervisor.callWithin ("move of " ++ interface ++ " on " ++ id.toText) r.timeouts.moveDisk
      (.moveDisk id ⟨interface, datastore, deleteOriginal⟩)
    pure (id, power)
  | .resizeDisk interface size => do
    let () ← r.hypervisor.callWithin ("resize of " ++ interface ++ " on " ++ id.toText)
      r.timeouts.resizeDisk (.resizeDisk id ⟨interface, size⟩)
    pure (id, power)
  | .migrate node => do
    let () ← r.hypervisor.callWithin ("migration of " ++ id.toText) r.timeouts.migrate
      (.migrate id ⟨node, true, power == .running⟩)
    pure (id.onNode node, power)
  | .start => r.actPower id r.timeouts.start .start power
  | .shutdown => r.actPower id r.timeouts.shutdown .shutdown power
  | .stop => r.actPower id r.timeouts.stop .stop power
  | .reboot => r.actPower id r.timeouts.reboot .reboot power

/-- One batch, unless it is skipped. -/
def step (p : Progress) (b : Batch) : Steps (World σ) Failure Progress :=
  match p.skipReason? b.first with
  | some why => pure (p.skip b why)
  | none => do
    match ← (r.act p.identity p.power b).attempt with
    | .ok (identity, power) => pure (p.succeed b identity power)
    | .error why => pure (p.fail b why)

def runBatches (p : Progress) : List Batch → Steps (World σ) Failure Progress
  | [] => pure p
  | b :: rest => do runBatches (← r.step p b) rest

/-- All steps of a plan in their order, on an instance of a certain status. -/
def execute (id : Identity) (plan : Plan) (status : Status) : Steps (World σ) Failure Progress :=
  r.runBatches (.initial id status) (batches plan.intents)

end Reconciler

end Steward
