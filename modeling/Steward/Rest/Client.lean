/-
The hypervisor's web interface. Reading calls are tried again when they fail in a way that may pass;
changing calls are sent once, and when they start a task, the task is waited for. What is sent goes over
a wire on which the answers to come are known.
-/
import Steward.Hypervisor.Json
import Steward.Rest.Backoff
import Steward.Rest.Error
import Steward.Rest.Form
import Steward.Rest.Path
import Steward.Text.Quoted

namespace Steward

namespace Rest

inductive Method
  | get | post | put
  deriving DecidableEq, Repr

def Method.name : Method → String
  | get => "GET"
  | post => "POST"
  | put => "PUT"

structure Sent where
  method : Method
  path : String
  authorization : String
  form : Option Form
  deriving DecidableEq, Repr

/-- What comes of a request. -/
inductive Reply
  | answer (status : UInt16) (body : String)
  /-- The request arrives, and no answer comes back. -/
  | dropped
  /-- There is no connection, so that the request does not arrive. -/
  | unconnected
  deriving DecidableEq, Repr

namespace Reply

/-- Where the replies are used up, a request is refused. -/
def refusal : Reply := answer 418 "script exhausted"

def arrives : Reply → Bool
  | unconnected => false
  | _ => true

end Reply

structure Wire where
  /-- Whether there is a connection when the replies are used up. -/
  reachable : Bool
  replies : List Reply
  /-- All requests that have arrived, the latest one first. -/
  sent : List Sent

namespace Wire

/-- What comes of the next request. -/
def next (w : Wire) : Reply := w.replies.head?.getD (if w.reachable then .refusal else .unconnected)

/-- The wire after a request. -/
def after (w : Wire) (request : Sent) : Wire :=
  { w with
    replies := w.replies.tail
    sent := if w.next.arrives then request :: w.sent else w.sent }

end Wire

/-- The data of an answer: a record with one member that may be missing. -/
def envelope? (body : String) : Option Json := do
  let r ← Json.record? ["data"] (← Json.ofText? .scaled body)
  some ((Json.member? r "data").getD .null).normal

def isSuccess (status : UInt16) : Bool := 200 ≤ status && status < 300

def Reply.read : Reply → Except RestError Json
  | unconnected => .error .unreachable
  | dropped => .error .dropped
  | answer status body =>
    if isSuccess status then
      match envelope? body with
      | some data => .ok data
      | none => .error .malformed
    else .error (.ofStatus status body)

/-- A request goes out, and the next reply comes back. -/
def exchange (request : Sent) : Steps Wire RestError Json := fun _ w t => .done w.next.read (w.after request) t

/-- What is known of a task. -/
structure TaskStatus where
  state : String
  exit : Option String

def TaskStatus.ofJson? (j : Json) : Option TaskStatus := do
  let r ← Json.record? ["status", "exitstatus"] j
  some { state := ← Json.required? r "status" Json.text?, exit := ← Json.optional? r "exitstatus" Json.text? }

/-- What comes of a task that has stopped. -/
def taskResult (task : String) (exit : Option String) : Except RestError Unit :=
  match exit with
  | none => .error (.taskFailed task "unknown")
  | some exit =>
    if exit = "OK" ∨ Text.startsWith exit "WARNINGS: " then .ok () else .error (.taskFailed task exit)

/-- The task that a changing call has started, if any. -/
def startedTask? : Json → Option String
  | .string s => if Text.startsWith s "UPID:" then some s else none
  | _ => none

def nextId? : Json → Option UInt32
  | .string s => Text.uint32? s
  | j => j.uint32?

/-- What is read by `read`, or else an error. -/
def typed {σ α : Type} (read : Json → Option α) (j : Json) : Steps σ RestError α :=
  match read j with
  | some a => pure a
  | none => Steps.throw .malformed

/-- Where the web interface is and how it is used. -/
structure Client where
  /-- The root of the interface. -/
  url : String
  authorization : String
  backoff : Backoff
  /-- The time between two questions for a task. -/
  taskInterval : Duration

namespace Client

/-- A client for an endpoint and a token, which must have the form of such. -/
def create (endpoint token : String) (backoff : Backoff) (taskInterval : Duration) : Except RestError Client :=
  let root := String.ofList ((Text.trim endpoint.toList).reverse.dropWhile (· == '/')).reverse
  if !(Text.startsWith root "https://" || Text.startsWith root "http://") then
    .error (.configuration ("endpoint must be an http(s) URL: " ++ Text.quoted endpoint))
  else if !(token.toList.contains '!' && token.toList.contains '=') then
    .error (.configuration "api token must look like USER@REALM!TOKENID=SECRET")
  else .ok ⟨root ++ "/api2/json", "PVEAPIToken=" ++ token, backoff, taskInterval⟩

/-- The path of a URL: what stands from the first slash after its host. -/
def pathOf (url : String) : String :=
  match Text.afterStart "https://" url <|> Text.afterStart "http://" url with
  | some rest => String.ofList (rest.toList.dropWhile (· != '/'))
  | none => url

variable (client : Client)

def request (method : Method) (path : String) (form : Option Form) : Steps Wire RestError Json :=
  exchange ⟨method, pathOf (client.url ++ path), client.authorization, form⟩

/-- Attempts to read from number `attempt` on, with so many more after it. -/
def readFrom (path : String) (attempt : Nat) : (more : Nat) → Steps Wire RestError Json
  | 0 => client.request .get path none
  | more + 1 => do
    match ← (client.request .get path none).attempt with
    | .ok data => pure data
    | .error e =>
      if e.isTransient then
        client.backoff.pause attempt
        readFrom path (attempt + 1) more
      else Steps.throw e

def read (path : String) : Steps Wire RestError Json :=
  client.readFrom path 1 (client.backoff.maxAttempts.toNat - 1)

/-- What a question for a task leads to: its end, or nothing yet. A task may not be known for a while
after it has been started. -/
def taskEnd? (task : String) : Except RestError Json → Option (Except RestError Unit)
  | .ok data =>
    match TaskStatus.ofJson? data with
    | none => some (.error .malformed)
    | some s => if s.state = "running" then none else some (taskResult task s.exit)
  | .error e =>
    match e with
    | .status 400 _ => none
    | e => if e.isTransient then none else some (.error e)

def waitFrom (node task : String) : (questions : Nat) → Steps Wire RestError Unit
  | 0 => Steps.never
  | questions + 1 => do
    match taskEnd? task (← (client.request .get (taskPath node task) none).attempt) with
    | some result => Steps.ofExcept result
    | none =>
      Steps.sleep client.taskInterval
      waitFrom node task questions

/-- The end of a task. Every reply answers one question, and the refusal after the last one ends the wait;
where there is no connection then, it goes on for good. -/
def waitForTask (node task : String) : Steps Wire RestError Unit := do
  let wire ← Steps.get
  client.waitFrom node task (wire.replies.length + 1)

/-- A changing call and the task that it starts. -/
def mutate (method : Method) (node path : String) (form : Form) : Steps Wire RestError Unit := do
  match startedTask? (← client.request method path (some form)) with
  | some task => client.waitForTask node task
  | none => pure ()

/-- A number that no instance has. -/
def nextId : Steps Wire RestError UInt32 := do
  let data ← client.read nextIdPath
  match nextId? data with
  | some id => pure id
  | none => Steps.throw (.unexpected ("nextid returned " ++ data.toText))

def idFor (wanted : Option UInt32) : Steps Wire RestError UInt32 :=
  match wanted with
  | some id => pure id
  | none => client.nextId

/-- Attempts to copy from number `attempt` on, with so many more after it. What is missing or wrong does
not get better by trying. -/
def cloneFrom (node path : String) (form : Form) (attempt : Nat) : (more : Nat) → Steps Wire RestError Unit
  | 0 => client.mutate .post node path form
  | more + 1 => do
    match ← (client.mutate .post node path form).attempt with
    | .ok () => pure ()
    | .error e =>
      match e with
      | .notFound _ | .configuration _ => Steps.throw e
      | _ =>
        client.backoff.pause attempt
        cloneFrom node path form (attempt + 1) more

/-- A changing call on an instance. -/
def onInstance (method : Method) (id : Identity) (tail : String) (form : Form) : Steps Wire RestError Unit :=
  client.mutate method id.node (instancePath id tail) form

def moveTail : Kind → String
  | .vm => "move_disk"
  | .container => "move_volume"

/-- What answers a call. -/
def answer : (call : Call) → Steps Wire RestError call.Answer
  | .create node request => do
    let id ← client.idFor request.id
    client.mutate .post node (collectionPath node request.kind) (request.form id)
    (Steps.pure id : Steps Wire RestError UInt32)
  | .clone source request attempts => do
    let id ← client.idFor request.newId
    client.cloneFrom source.node (instancePath source "clone") (request.form source.kind id) 1
      (attempts.toNat - 1)
    (Steps.pure id : Steps Wire RestError UInt32)
  | .configuration id => do
    let data ← client.read (instancePath id "config")
    let remote ← typed Remote.ofJson? data
    (Steps.pure (decodeParams remote) : Steps Wire RestError Remote)
  | .status id => do typed Status.ofJson? (← client.read (instancePath id "status/current"))
  | .update id request =>
    if request.isEmpty then pure () else client.onInstance .put id "config" request.form
  | .moveDisk id request => client.onInstance .post id (moveTail id.kind) (request.form id.kind)
  | .resizeDisk id request => client.onInstance .put id "resize" request.form
  | .migrate id request => client.onInstance .post id "migrate" (request.form id.kind)
  | .start id timeout => client.onInstance .post id "status/start" (hardPowerForm id timeout)
  | .shutdown id force timeout => client.onInstance .post id "status/shutdown" (shutdownForm force timeout)
  | .stop id timeout => client.onInstance .post id "status/stop" (hardPowerForm id timeout)
  | .reboot id timeout => client.onInstance .post id "status/reboot" [timeoutField timeout]

/-- The hypervisor behind the web interface. -/
def hypervisor : Hypervisor Wire := fun call wire =>
  .ofSteps ((client.answer call).mapError RestError.toFailure) wire

end Client

end Rest

end Steward
