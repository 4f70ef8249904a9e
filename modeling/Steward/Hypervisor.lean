/-
The calls by which instances are read and changed, and what answers them. A hypervisor is any function
that answers calls from a state of its own; how long an answer takes, and what is left behind when
nobody waits for it to the end, is part of the answer.
-/
import Steward.Remote
import Steward.Request
import Steward.Steps

namespace Steward

inductive Call
  | create (node : String) (request : CreateRequest)
  | clone (source : Identity) (request : CloneRequest) (attempts : UInt32)
  | configuration (id : Identity)
  | status (id : Identity)
  | update (id : Identity) (request : UpdateRequest)
  | moveDisk (id : Identity) (request : MoveDiskRequest)
  | resizeDisk (id : Identity) (request : ResizeDiskRequest)
  | migrate (id : Identity) (request : MigrateRequest)
  | start (id : Identity) (timeout : Duration)
  /-- An orderly shutdown within `timeout`; after that a hard stop if `force` is set. -/
  | shutdown (id : Identity) (force : Bool) (timeout : Duration)
  | stop (id : Identity) (timeout : Duration)
  | reboot (id : Identity) (timeout : Duration)

namespace Call

/-- What a call is answered with: the number of a new instance, what is read, or nothing. -/
def Answer : Call → Type
  | create .. | clone .. => UInt32
  | configuration _ => Remote
  | status _ => Status
  | update .. | moveDisk .. | resizeDisk .. | migrate .. | start .. | shutdown .. | stop .. | reboot .. => Unit

/-- Whether a call only reads. -/
def isRead : Call → Bool
  | configuration _ | status _ => true
  | _ => false

end Call

/-- What a call leads to where its caller waits for it. -/
inductive Reaction (σ α : Type)
  /-- An answer that takes some time, and the state that it leaves. -/
  | answered (delay : Duration) (answer : Except Failure α) (state : σ)
  /-- A panic after some time: the call is made in the caller's own program. -/
  | panicked (delay : Duration) (state : σ)
  /-- No answer ever. -/
  | silent

/-- What comes of a call, and the hypervisor's state from then on. -/
structure Exchange (σ α : Type) where
  reaction : Reaction σ α
  /-- The state left when the caller gives up after some time; `none` if it waits for an answer that
  never comes. -/
  abandoned : Option Duration → σ

/-- An answer that is worked out by steps. -/
def Exchange.ofSteps {σ α : Type} (p : Steps σ Failure α) (s : σ) : Exchange σ α where
  reaction :=
    match p none s 0 with
    | .done answer after t => .answered t answer after
    | .panicked after t => .panicked t after
    | .cut _ => .silent
  abandoned deadline := (p deadline s 0).state

abbrev Hypervisor (σ : Type) := (call : Call) → σ → Exchange σ call.Answer

/-- The failure of work that did not end in time. -/
def Failure.late (what : String) (timeout : Duration) : Failure :=
  .timeout (what ++ " did not complete within " ++ Text.decimal (Duration.wholeSeconds timeout) ++ "s")

/-- The state of a hypervisor, and all calls that were made, the latest one first. -/
structure World (σ : Type) where
  remote : σ
  log : List Call

namespace Hypervisor

variable {σ : Type} (h : Hypervisor σ)

/-- A call, which is logged when it is made. -/
def call (c : Call) : Steps (World σ) Failure c.Answer := fun deadline w t =>
  let x := h c w.remote
  let log := c :: w.log
  let abandoned : World σ := ⟨x.abandoned (deadline.map (· - t)), log⟩
  match x.reaction with
  | .answered d answer after =>
    if Steps.inTime deadline (t + d) then .done answer ⟨after, log⟩ (t + d) else .cut abandoned
  | .panicked d after =>
    if Steps.inTime deadline (t + d) then .panicked ⟨after, log⟩ (t + d) else .cut abandoned
  | .silent => .cut abandoned

/-- A call with a deadline; `what` says in a failure which it was. -/
def callWithin (what : String) (timeout : Duration) (c : Call) : Steps (World σ) Failure c.Answer :=
  (h.call c).within timeout (.late what timeout)

end Hypervisor

end Steward
