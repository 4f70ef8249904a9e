/-
All differences between a declared and an observed configuration, disks and first-boot drive apart.
-/
import Steward.Plan.Networks
import Steward.Plan.Settings

namespace Steward

structure ConfigDiff where
  intents : List Intent
  rebootRequired : Bool
  failures : List Failure

namespace Plan

variable (ctx : DiffContext) (desired observed : Config)

def slotRules : SlotRules :=
  match ctx.kind with
  | .vm => vmSlotRules
  | .container =>
    containerSlotRules (desired.cloudInit.map (·.ipConfigs)) ((observed.cloudInit.map (·.ipConfigs)).getD [])

def networkIntents : List Intent := nicIntents (slotRules ctx desired observed) desired.nics observed.nics

def comparisons : List Comparison :=
  generalComparisons ctx desired observed ++ hardwareComparisons ctx desired observed

def diffConfig : ConfigDiff where
  intents :=
    (generalComparisons ctx desired observed).filterMap Comparison.intent? ++
      templateIntents ctx desired observed ++
      (hardwareComparisons ctx desired observed).filterMap Comparison.intent? ++
      networkIntents ctx desired observed
  rebootRequired :=
    (comparisons ctx desired observed).any (fun c => c.differs && c.restart) ||
      !(networkIntents ctx desired observed).isEmpty
  failures := templateFailures ctx desired observed

end Plan

end Steward
