/-
What the program prints: its findings and what it has done on one stream, failures on the other, and
whether it succeeded as its exit code. A password is never shown in a plan.
-/
import Steward.Config.Writer
import Steward.Reconcile
import Steward.Rest.Error
import Steward.UserSettings

namespace Steward

/-- Why a command was given up. -/
inductive CommandError
  | settings (e : SettingsError)
  | unreadable (file : String) (why : FileFault)
  | unparsable (file : String)
  | invalid (file : String) (fault : Fault)
  | client (e : RestError)
  | failure (f : Failure)
  /-- The program panicked. -/
  | panicked
  /-- The hypervisor never answered. -/
  | unanswered

namespace CommandError

def message : CommandError → String
  | settings e => e.message
  | unreadable file _ => "Failed to read " ++ file
  | unparsable file => "Failed to parse " ++ file
  | invalid file _ => "Invalid instance definition in " ++ file
  | client e => e.message
  | failure f => f.message
  | panicked => "The program panicked"
  | unanswered => "No answer from the hypervisor"

def cause? : CommandError → Option String
  | settings e => e.cause?
  | unreadable _ why => some why.message
  | unparsable _ => some "no instance definition"
  | invalid _ fault => some fault.message
  | _ => none

/-- An error with what caused it, which is indented. -/
def toText (e : CommandError) : String :=
  let caused := match e.cause? with
    | some cause => "\n\nCaused by:\n    " ++ Text.replace "\n" "\n    " cause
    | none => ""
  "Error: " ++ e.message ++ caused ++ "\n"

def exitCode : CommandError → UInt32
  | panicked => 101
  | _ => 1

end CommandError

/-- Lines, each with its end. -/
def linesText (lines : List String) : String := String.join (lines.map fun line => line ++ "\n")

/-- What a run of the program prints on its two streams, and its exit code. -/
structure Printed where
  output : String
  errors : String
  code : UInt32
  deriving DecidableEq, Repr

namespace Printed

def success (lines : List String) : Printed := ⟨linesText lines, "", 0⟩

/-- After some lines the command was given up. -/
def givenUp (lines : List String) (e : CommandError) : Printed := ⟨linesText lines, e.toText, e.exitCode⟩

/-- A command that ended with failures in its result. -/
def failures (lines : List String) (failures : List Failure) : Printed :=
  ⟨linesText lines, linesText ("" :: "✗ Errors" :: failures.map fun f => "  - " ++ f.message), 1⟩

end Printed

/-- The sign in front of a step. -/
def Operation.marker : Operation → String
  | update .. => "~"
  | delete _ => "-"
  | moveDisk .. | resizeDisk .. => "»"
  | reboot | shutdown | start | stop | migrate _ => "⟳"

/-- A step as it may be shown: without a password. -/
def Intent.masked (i : Intent) : Intent :=
  match i.op with
  | .update field "cipassword" _ => { i with op := .update field "cipassword" "****" }
  | _ => i

def Intent.planLine (i : Intent) : String := "  " ++ i.op.marker ++ " " ++ i.masked.toText

/-- The steps of a plan, and how many there are of each kind. -/
def Plan.lines (p : Plan) : List String :=
  p.intents.map Intent.planLine ++ ["", p.summary.toText] ++
    if p.rebootRequired then ["A restart is required for some changes."] else []

/-- What planning has found; none if there is no such instance. -/
def plannedOutput (id : Identity) : Option (Observed × PlanOutcome) → Printed
  | none => .success ["Planning " ++ id.toText, id.toText ++ " does not exist: it would be created."]
  | some (observed, outcome) =>
    let changes := if outcome.plan.hasChanges then "" :: outcome.plan.lines else ["✓ No changes"]
    let lines := ["Planning " ++ id.toText, "Status: " ++ observed.status.state.name] ++ changes
    if outcome.isClean then .success lines else .failures lines outcome.failures

namespace Report

def changeLines (r : Report) : List String := if r.plan.hasChanges then "" :: r.plan.lines else []

def skippedLines (r : Report) : List String :=
  r.applied.skipped.map fun (i, why) => "  skipped " ++ i.toText ++ " (" ++ why.toText ++ ")"

/-- A word on a pass that went well and yet left something to do. -/
def convergenceLines (r : Report) : List String :=
  if r.outcome ≠ .deleted ∧ !r.converged ∧ r.isSuccess then
    ["Remote state still differs after apply; run again to converge."]
  else []

def lines (r : Report) : List String :=
  ["Applying...", r.identity.toText ++ " " ++ r.outcome.toText] ++ r.changeLines ++ r.skippedLines ++
    r.convergenceLines

def output (r : Report) : Printed :=
  if r.isSuccess then
    .success (r.lines ++ ["✓ Done (" ++ Text.decimal r.duration.wholeMilliseconds ++ " ms)"])
  else .failures r.lines r.failures

end Report

/-- An instance as it is: where, in which state, and its configuration as a record. -/
def Observed.output (o : Observed) : Printed :=
  let lock := match o.status.lock with
    | some lock => ["locked: " ++ lock]
    | none => []
  .success ((o.identity.toText ++ " " ++ o.status.state.name) :: lock ++
    ["", (o.config.toJson fun rate => .number (.fraction rate)).toText])

end Steward
