/-
Steps and plans in the data format.
-/
import Steward.Intent
import Steward.Json.Fields

namespace Steward

open Json

namespace Operation

def toJson : Operation → Json
  | update field param value =>
    .object [("op", .string "field_update"), ("field", .string field), ("param", .string param),
      ("value", .string value)]
  | delete param => .object [("op", .string "device_delete"), ("param", .string param)]
  | moveDisk interface datastore deleteOriginal =>
    .object [("op", .string "disk_move"), ("interface", .string interface),
      ("target_datastore", .string datastore), ("delete_original", .bool deleteOriginal)]
  | resizeDisk interface size =>
    .object [("op", .string "disk_resize"), ("interface", .string interface),
      ("size_gib", .number (.natural size))]
  | reboot => .object [("op", .string "reboot")]
  | shutdown => .object [("op", .string "shutdown")]
  | start => .object [("op", .string "start")]
  | stop => .object [("op", .string "stop")]
  | migrate node => .object [("op", .string "migrate"), ("target_node", .string node)]

def ofJson? (j : Json) : Option Operation := do
  let r ← j.members?
  match ← required? r "op" text? with
  | "field_update" =>
    some (update (← required? r "field" text?) (← required? r "param" text?) (← required? r "value" text?))
  | "device_delete" => some (delete (← required? r "param" text?))
  | "disk_move" =>
    some (moveDisk (← required? r "interface" text?) (← required? r "target_datastore" text?)
      (← required? r "delete_original" flag?))
  | "disk_resize" => some (resizeDisk (← required? r "interface" text?) (← required? r "size_gib" uint64?))
  | "reboot" => some reboot
  | "shutdown" => some shutdown
  | "start" => some start
  | "stop" => some stop
  | "migrate" => some (migrate (← required? r "target_node" text?))
  | _ => none

end Operation

namespace Reason

def name : Reason → String
  | drift => "drift"
  | create => "create"
  | prune => "prune"
  | disabled => "disabled"
  | cleared => "cleared"
  | cloudInitDetach => "cloud_init_detach"
  | cloudInitAttach => "cloud_init_attach"
  | diskMigration => "disk_migration"
  | diskGrowth => "disk_growth"
  | nodeChange => "node_change"
  | stoppedWindow => "stopped_window"
  | powerState => "power_state"
  | restartRequired => "restart_required"

def all : List Reason :=
  [drift, create, prune, disabled, cleared, cloudInitDetach, cloudInitAttach, diskMigration, diskGrowth,
    nodeChange, stoppedWindow, powerState, restartRequired]

def ofJson? (j : Json) : Option Reason := j.text?.bind fun s => all.find? fun r => r.name == s

end Reason

namespace Dependency

def name : Dependency → String
  | nothing => "none"
  | stoppedWindow => "stopped_window"
  | configApplied => "config_applied"

def ofJson? (j : Json) : Option Dependency :=
  j.text?.bind fun s => [nothing, stoppedWindow, configApplied].find? fun d => d.name == s

end Dependency

namespace Intent

def toJson (i : Intent) : Json :=
  .object [("op", i.op.toJson), ("reason", .string i.reason.name), ("dependency", .string i.dependency.name)]

def ofJson? (j : Json) : Option Intent := do
  let r ← record? ["op", "reason", "dependency"] j
  some
    { op := ← required? r "op" Operation.ofJson?
      reason := ← required? r "reason" Reason.ofJson?
      dependency := ← defaulted? r "dependency" Dependency.ofJson? .nothing }

def listJson (is : List Intent) : Json := .array (is.map toJson)

end Intent

/-- A plan with its steps in words. -/
def Plan.toJson (p : Plan) : Json :=
  .object [("intents", Intent.listJson p.intents), ("text", .array (p.intents.map fun i => .string i.toText)),
    ("reboot_required", .bool p.rebootRequired), ("has_changes", .bool p.hasChanges),
    ("summary", .string p.summary.toText)]

end Steward
