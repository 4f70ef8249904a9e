/-
How long the calls of each kind may take.
-/
import Steward.Json.Fields
import Steward.Steps

namespace Steward

/-- How long calls may take. -/
structure Timeouts where
  create : Duration := .seconds 1800
  clone : Duration := .seconds 1800
  migrate : Duration := .seconds 1800
  start : Duration := .seconds 1800
  shutdown : Duration := .seconds 1800
  stop : Duration := .seconds 300
  reboot : Duration := .seconds 1800
  moveDisk : Duration := .seconds 1800
  resizeDisk : Duration := .seconds 1800
  /-- Changes of the configuration. -/
  request : Duration := .seconds 300
  deriving DecidableEq, Repr

namespace Timeouts

open Json

def fieldNames : List String :=
  ["create", "clone", "migrate", "start", "shutdown", "stop", "reboot", "move_disk", "resize_disk", "request"]

/-- The timeouts of a record; each is read by `read`, a missing one is as usual. -/
def ofJson? (read : Json → Option Duration) (j : Json) : Option Timeouts := do
  let r ← record? fieldNames j
  let d : Timeouts := {}
  some
    { create := ← defaulted? r "create" read d.create
      clone := ← defaulted? r "clone" read d.clone
      migrate := ← defaulted? r "migrate" read d.migrate
      start := ← defaulted? r "start" read d.start
      shutdown := ← defaulted? r "shutdown" read d.shutdown
      stop := ← defaulted? r "stop" read d.stop
      reboot := ← defaulted? r "reboot" read d.reboot
      moveDisk := ← defaulted? r "move_disk" read d.moveDisk
      resizeDisk := ← defaulted? r "resize_disk" read d.resizeDisk
      request := ← defaulted? r "request" read d.request }

/-- All of them, in the order of `fieldNames`. -/
def toList (t : Timeouts) : List Duration :=
  [t.create, t.clone, t.migrate, t.start, t.shutdown, t.stop, t.reboot, t.moveDisk, t.resizeDisk, t.request]

end Timeouts

end Steward
