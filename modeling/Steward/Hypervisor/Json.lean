/-
Calls in the data format: a record of what was asked of whom.
-/
import Steward.Hypervisor
import Steward.Instance.Json
import Steward.Request.Json

namespace Steward

namespace Call

def name : Call → String
  | create .. => "create"
  | clone .. => "clone"
  | configuration _ => "get"
  | status _ => "status"
  | update .. => "update"
  | moveDisk .. => "move_disk"
  | resizeDisk .. => "resize_disk"
  | migrate .. => "migrate"
  | start .. => "start"
  | shutdown .. => "shutdown"
  | stop .. => "stop"
  | reboot .. => "reboot"

def idMember (id : Identity) : String × Json := ("id", .string id.toText)

def timeoutMember (timeout : Duration) : String × Json := ("timeout_ms", .ofNat timeout.wholeMilliseconds)

def arguments : Call → List (String × Json)
  | create node request => [("node", .string node), ("request", request.toJson)]
  | clone source request attempts =>
    [idMember source, ("request", request.toJson), ("retries", numberJson attempts)]
  | configuration id | status id => [idMember id]
  | update id request => [idMember id, ("request", request.toJson)]
  | moveDisk id request => [idMember id, ("request", request.toJson)]
  | resizeDisk id request => [idMember id, ("request", request.toJson)]
  | migrate id request => [idMember id, ("request", request.toJson)]
  | start id timeout | stop id timeout | reboot id timeout => [idMember id, timeoutMember timeout]
  | shutdown id force timeout => [idMember id, ("force_stop", .bool force), timeoutMember timeout]

def toJson (c : Call) : Json := .object (("call", .string c.name) :: c.arguments)

end Call

end Steward
