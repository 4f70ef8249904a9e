/-
What goes wrong while an instance is brought to its declared state. Several failures of one pass are
gathered into one (`Failure.aggregate`), a gathered one never standing inside another.
-/
import Steward.Fault
import Steward.Text.Split

namespace Steward

inductive Failure
  | configuration (text : String)
  | notFound (text : String)
  /-- A volume that belongs to another instance must not be touched. -/
  | ownership (action volume : String) (id : UInt32)
  | unsupported (text : String)
  /-- A failure of the hypervisor that may pass. -/
  | transient (text : String)
  | api (text : String)
  | timeout (text : String)
  | several (failures : List Failure)
  deriving Repr

instance : Inhabited Failure := ⟨.api ""⟩

namespace Failure

def ofFault (fault : Fault) : Failure := configuration fault.message

def isNotFound : Failure → Bool
  | notFound _ => true
  | _ => false

def isTransient : Failure → Bool
  | transient _ => true
  | _ => false

def isTimeout : Failure → Bool
  | timeout _ => true
  | _ => false

mutual

def message : Failure → String
  | .configuration text => "Invalid configuration: " ++ text
  | .notFound text => "Instance not found: " ++ text
  | .ownership action volume id =>
    "Cannot " ++ action ++ " " ++ volume ++ ": it is not owned by instance " ++ Text.decimal id.toNat
  | .unsupported text => "Unsupported operation: " ++ text
  | .transient text => "Transient API error: " ++ text
  | .api text => "API error: " ++ text
  | .timeout text => "Timeout: " ++ text
  | .several failures =>
    Text.decimal failures.length ++ " errors during reconciliation:\n" ++ Text.join "\n" (itemLines failures)

/-- One line for each of several failures. -/
def itemLines : List Failure → List String
  | [] => []
  | failure :: failures => ("  - " ++ failure.message) :: itemLines failures

end

/-- The failures that a gathered failure consists of, one level deep. -/
def parts : Failure → List Failure
  | several failures => failures
  | failure => [failure]

/-- The failures of a pass as one: none, the only one, or a gathered one. -/
def aggregate (failures : List Failure) : Option Failure :=
  match failures.flatMap parts with
  | [] => none
  | [failure] => some failure
  | all => some (several all)

end Failure

end Steward
