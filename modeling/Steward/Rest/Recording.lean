/-
Recorded replies, from which a wire is made. A record gives the status, which is 200 if it is left out,
and the text of the body, or instead of it the data that the body carries; `drop` stands for a reply
that never came.
-/
import Steward.Json.Fields
import Steward.Json.Reader
import Steward.Rest.Client

namespace Steward.Rest

open Json

namespace Reply

def ofJson? : Json → Option Reply
  | .string "drop" => some .dropped
  | .object r => do
    let status ← optional? r "status" uint16?
    let body := match member? r "body" with
      | some (.string body) => body
      | _ => (Json.object [("data", (member? r "data").getD .null)]).toText
    some (.answer (status.getD 200) body)
  | _ => none

/-- The reply that a text records. -/
def ofText? (text : String) : Option Reply := (Json.ofText? .nearest text).bind ofJson?

end Reply

/-- A wire over which some replies come back, and on which nothing has been sent. -/
def Wire.replaying (replies : List Reply) : Wire := ⟨true, replies, []⟩

end Steward.Rest
