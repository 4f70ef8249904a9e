/-
The order of a pass: migration; a shutdown where something needs a stopped instance; first-boot drive,
configuration, disks; the power state that is wanted; and a restart where one is still owed. Templates
are never started, stopped or restarted.
-/
import Steward.Plan.Disks
import Steward.Plan.FirstBoot

namespace Steward

structure ScheduleInput where
  config : List Intent
  cloudInit : CloudInitPlan
  disks : DiskPlan
  migrateTo : Option String
  rebootRequired : Bool
  wasRunning : Bool
  wantStarted : Bool
  template : Bool

namespace ScheduleInput

variable (s : ScheduleInput)

/-- Whether a running instance is stopped for a while. -/
def windowOpen : Bool := (s.cloudInit.relocation || !s.disks.moves.isEmpty) && !s.template && s.wasRunning

/-- What the steps that need a stopped instance depend on. -/
def windowDependency : Dependency := if s.windowOpen then .stoppedWindow else .nothing

def inWindow (i : Intent) : Intent := i.dependingOn s.windowDependency

def migration : List Intent := s.migrateTo.toList.map fun node => ⟨.migrate node, .nodeChange, .nothing⟩

def opening : List Intent := if s.windowOpen then [⟨.shutdown, .stoppedWindow, .nothing⟩] else []

/-- The changes themselves. -/
def changes : List Intent :=
  s.cloudInit.detach.map s.inWindow ++ s.cloudInit.attach.toList.map s.inWindow ++ s.cloudInit.updates ++
    s.config ++ s.disks.updates ++ s.disks.moves.map s.inWindow ++ s.disks.resizes

/-- The end of the stopped window, or the wanted power state. -/
def alignment : List Intent :=
  if s.template then []
  else if s.windowOpen then if s.wantStarted then [⟨.start, .stoppedWindow, .stoppedWindow⟩] else []
  else if s.wasRunning && !s.wantStarted then [⟨.shutdown, .powerState, .nothing⟩]
  else if !s.wasRunning && s.wantStarted then [⟨.start, .powerState, .nothing⟩]
  else []

/-- The restart that is owed to an instance that has run all the time. -/
def restart : List Intent :=
  if s.rebootRequired && !s.template && s.wasRunning && s.wantStarted && !s.windowOpen then
    [⟨.reboot, .restartRequired, .configApplied⟩]
  else []

end ScheduleInput

def schedule (s : ScheduleInput) : Plan :=
  ⟨s.migration ++ s.opening ++ s.changes ++ s.alignment ++ s.restart, s.rebootRequired⟩

end Steward
