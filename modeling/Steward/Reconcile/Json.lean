/-
Plans, their execution and whole passes in the data format.
-/
import Steward.Failure.Json
import Steward.Intent.Json
import Steward.Reconcile

namespace Steward

def PlanOutcome.toJson (o : PlanOutcome) : Json :=
  .object [("plan", o.plan.toJson), ("errors", Failure.listJson o.failures), ("clean", .bool o.isClean)]

namespace Applied

def itemJson (i : Intent) (message : String) : Json :=
  .object [("intent", .string i.toText), ("message", .string message)]

def toJson (a : Applied) : Json :=
  .object
    [("succeeded", .array (a.succeeded.map fun i => itemJson i "")),
      ("failed", .array (a.failed.map fun (i, why) => itemJson i why.message)),
      ("skipped", .array (a.skipped.map fun (i, why) => itemJson i why.toText)), ("success", .bool a.isSuccess)]

end Applied

def Progress.toJson (p : Progress) : Json :=
  .object [("identity", .string p.identity.toText), ("apply", p.applied.toJson),
    ("errors", Failure.listJson p.failures)]

def Report.toJson (r : Report) : Json :=
  .object
    [("identity", .string r.identity.toText), ("outcome", .string r.outcome.toText), ("plan", r.plan.toJson),
      ("apply", r.applied.toJson), ("errors", Failure.listJson r.failures), ("converged", .bool r.converged),
      ("success", .bool r.isSuccess), ("into_result", r.failure?.elim (.string "ok") Failure.toJson)]

end Steward
