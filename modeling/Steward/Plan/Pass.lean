/-
One pass over an existing instance: everything that has to be done, and what cannot be done.
-/
import Steward.Desired
import Steward.Plan.Diff
import Steward.Plan.Schedule

namespace Steward

structure PlanOutcome where
  plan : Plan
  failures : List Failure

def PlanOutcome.isClean (o : PlanOutcome) : Bool := o.failures.isEmpty

namespace Plan

variable (desired : Desired) (observed : Observed) (copied : Bool)

def passContext : DiffContext := ⟨observed.identity.id, observed.identity.kind, copied⟩

def passCloudInit : CloudInitPlan :=
  match observed.identity.kind with
  | .vm => planCloudInit desired.config.cloudInit observed.config.cloudInit observed.occupied
  | .container => planContainerResolver desired.config.cloudInit observed.config.cloudInit

def passDiff : ConfigDiff := diffConfig (passContext observed copied) desired.config observed.config

def passDisks : DiskPlan := planDisks observed.identity.id desired.config.disks observed.config.disks

def passInput : ScheduleInput where
  config := (passDiff desired observed copied).intents
  cloudInit := passCloudInit desired observed
  disks := passDisks desired observed
  migrateTo := if desired.node = observed.identity.node then none else some desired.node
  rebootRequired :=
    (passDiff desired observed copied).rebootRequired || (passCloudInit desired observed).rebootRequired ||
      (passDisks desired observed).rebootRequired
  wasRunning := observed.status.isRunning
  wantStarted := desired.config.started.value
  template := desired.config.template.value || observed.config.template.value

/-- The pass that brings an observed instance to its declared state; `copied` says that it has just been
copied and keeps what the user left out. -/
def planPass : PlanOutcome where
  plan := schedule (passInput desired observed copied)
  failures := (passDiff desired observed copied).failures ++ (passDisks desired observed).failures

end Plan

end Steward
