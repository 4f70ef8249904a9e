/-
The web interface under replies that are fixed beforehand: what comes back does not depend on what is sent. Of
two clients that send different parameters over such wires, both are answered the same, at the same moment.
-/
import Mathlib
import Steward.Proofs.TwoRuns
import Steward.Rest.Client

namespace Steward

namespace Rest

variable {ε α β : Type} {K : Reply → Prop}

/-- Wires over which the same replies come back, all of which satisfy `K`. -/
structure Wire.Alike (K : Reply → Prop) (w v : Wire) : Prop where
  reachable : w.reachable = v.reachable
  replies : w.replies = v.replies
  all : ∀ reply ∈ w.replies, K reply

/-- Data that a reply carries. -/
def Told (K : Reply → Prop) (data : Json) : Prop := ∃ reply, K reply ∧ reply.read = .ok data

/-- An exchange takes a reply off the wire, whatever was sent. -/
theorem alike_exchange (request request' : Sent) :
    (exchange request).Alike (Wire.Alike K) (fun a b => a = b ∧ Told K a) (exchange request') := by
  intro deadline w v t hR
  have hnext : v.next = w.next := by rw [Wire.next, Wire.next, hR.reachable, hR.replies]
  have hrest : Wire.Alike K (w.after request) (v.after request') :=
    ⟨hR.reachable, congrArg List.tail hR.replies, fun reply hreply => hR.all reply (List.mem_of_mem_tail hreply)⟩
  unfold exchange
  rw [hnext]
  cases hread : w.next.read with
  | error e => exact .error hrest
  | ok data =>
    refine .ok ⟨rfl, w.next, ?_, hread⟩ hrest
    -- What comes of a request when the replies are used up is no data.
    rw [Wire.next] at hread ⊢
    cases hreplies : w.replies with
    | nil =>
      rw [hreplies] at hread
      cases hreachable : w.reachable <;> rw [hreachable] at hread <;> cases hread
    | cons reply replies => exact hR.all reply (by simp [hreplies])

namespace Client

variable (client : Client)

theorem alike_request (method : Method) (path : String) (form form' : Option Form) :
    (client.request method path form).Alike (Wire.Alike K) (fun a b => a = b ∧ Told K a)
      (client.request method path form') :=
  alike_exchange _ _

theorem alike_pause (b : Backoff) (attempt : Nat) :
    (b.pause attempt : Steps Wire ε Unit).Alike (Wire.Alike K) Eq (b.pause attempt) := by
  unfold Backoff.pause
  split
  · exact .sleep _
  · exact .panic

theorem alike_readFrom (path : String) (attempt more : Nat) :
    (client.readFrom path attempt more).Alike (Wire.Alike K) (fun a b => a = b ∧ Told K a)
      (client.readFrom path attempt more) := by
  induction more generalizing attempt with
  | zero => exact client.alike_request _ _ _ _
  | succ more ih =>
    refine (client.alike_request _ _ _ _).bind_attempt (fun _ _ hdata => .pure hdata) fun e => ?_
    dsimp only
    split
    · exact (alike_pause _ _).bind fun _ _ _ => ih _
    · exact .throw e

theorem alike_read (path : String) :
    (client.read path).Alike (Wire.Alike K) (fun a b => a = b ∧ Told K a) (client.read path) :=
  client.alike_readFrom _ _ _

theorem alike_typed (read : Json → Option α) (j : Json) :
    (typed read j : Steps Wire RestError α).Alike (Wire.Alike K) (fun a b => a = b ∧ read j = some a)
      (typed read j) := by
  unfold typed
  cases hread : read j with
  | none => exact .throw _
  | some a => exact .pure ⟨rfl, rfl⟩

theorem alike_waitFrom (node task : String) (questions : Nat) :
    (client.waitFrom node task questions).Alike (Wire.Alike K) Eq (client.waitFrom node task questions) := by
  induction questions with
  | zero => exact .never
  | succ questions ih =>
    have hagain : Steps.Alike (Wire.Alike K) Eq
        (do
          Steps.sleep client.taskInterval
          client.waitFrom node task questions)
        (do
          Steps.sleep client.taskInterval
          client.waitFrom node task questions) := (Steps.Alike.sleep _).bind fun _ _ _ => ih
    refine (client.alike_request _ _ _ _).bind_attempt (fun data _ hdata => ?_) fun e => ?_
    · obtain ⟨rfl, -⟩ := hdata
      split
      · exact .ofExcept_self _
      · exact hagain
    · split
      · exact .ofExcept_self _
      · exact hagain

/-- How long a task is asked for depends on the number of replies only. -/
theorem alike_waitForTask (node task : String) :
    (client.waitForTask node task).Alike (Wire.Alike K) Eq (client.waitForTask node task) := by
  refine Steps.Alike.get.bind fun w v hR => ?_
  rw [hR.replies]
  exact client.alike_waitFrom _ _ _

theorem alike_mutate (method : Method) (node path : String) (form form' : Form) :
    (client.mutate method node path form).Alike (Wire.Alike K) Eq (client.mutate method node path form') := by
  refine (client.alike_request _ _ _ _).bind fun data _ hdata => ?_
  obtain ⟨rfl, -⟩ := hdata
  split
  · exact client.alike_waitForTask _ _
  · exact .pure rfl

theorem alike_idFor (wanted : Option UInt32) :
    (client.idFor wanted).Alike (Wire.Alike K) Eq (client.idFor wanted) := by
  cases wanted with
  | some id => exact .pure rfl
  | none =>
    refine (client.alike_read _).bind fun data _ hdata => ?_
    obtain ⟨rfl, -⟩ := hdata
    split
    · exact .pure rfl
    · exact .throw _

theorem alike_cloneFrom (node path : String) (form : Form) (attempt more : Nat) :
    (client.cloneFrom node path form attempt more).Alike (Wire.Alike K) Eq
      (client.cloneFrom node path form attempt more) := by
  induction more generalizing attempt with
  | zero => exact client.alike_mutate _ _ _ _ _
  | succ more ih =>
    refine (client.alike_mutate _ _ _ _ _).bind_attempt (fun _ _ _ => .pure rfl) fun e => ?_
    dsimp only
    split
    · exact .throw _
    · exact .throw _
    · exact (alike_pause _ _).bind fun _ _ _ => ih _

theorem alike_create (node : String) {request request' : CreateRequest} (hk : request.kind = request'.kind)
    (hi : request.id = request'.id) :
    (client.answer (.create node request)).Alike (Wire.Alike K) (fun a b : UInt32 => a = b)
      (client.answer (.create node request')) := by
  obtain ⟨kind, wanted, params⟩ := request
  obtain ⟨kind', wanted', params'⟩ := request'
  cases hk
  cases hi
  refine (client.alike_idFor wanted).bind fun id _ hid => ?_
  cases hid
  exact (client.alike_mutate _ _ _ _ _).bind fun _ _ _ => .pure rfl

theorem alike_update (id : Identity) {request request' : UpdateRequest}
    (he : request.isEmpty = request'.isEmpty) :
    (client.answer (.update id request)).Alike (Wire.Alike K) (fun a b : Unit => a = b)
      (client.answer (.update id request')) := by
  change Steps.Alike _ _
    (if request.isEmpty then pure () else client.onInstance .put id "config" request.form)
    (if request'.isEmpty then pure () else client.onInstance .put id "config" request'.form)
  rw [he]
  split
  · exact .pure rfl
  · exact client.alike_mutate _ _ _ _ _

theorem alike_configuration (id : Identity) :
    (client.answer (.configuration id)).Alike (Wire.Alike K)
      (fun a b : Remote => a = b ∧ ∃ data remote, Told K data ∧ Remote.ofJson? data = some remote ∧
        a = decodeParams remote)
      (client.answer (.configuration id)) := by
  unfold answer
  refine (client.alike_read _).bind fun data _ hdata => ?_
  obtain ⟨rfl, htold⟩ := hdata
  refine (alike_typed _ _).bind fun remote _ hremote => ?_
  obtain ⟨rfl, hread⟩ := hremote
  exact .pure ⟨rfl, data, remote, htold, hread, rfl⟩

/-- A call is answered the same each time. -/
theorem alike_answer (c : Call) : (client.answer c).Alike (Wire.Alike K) Eq (client.answer c) := by
  cases c with
  | create node request => exact client.alike_create node rfl rfl
  | clone source request attempts =>
    refine (client.alike_idFor _).bind fun id _ hid => ?_
    cases hid
    exact (client.alike_cloneFrom _ _ _ _ _).bind fun _ _ _ => .pure rfl
  | configuration id => exact (client.alike_configuration id).imp fun _ _ h => h.1
  | status id =>
    refine (client.alike_read _).bind fun data _ hdata => ?_
    obtain ⟨rfl, -⟩ := hdata
    exact (alike_typed _ _).imp fun _ _ h => h.1
  | update id request => exact client.alike_update id rfl
  | _ => exact client.alike_mutate _ _ _ _ _

theorem alike_call (c c' : Call) (Q : c.Answer → c'.Answer → Prop)
    (h : (client.answer c).Alike (Wire.Alike K) Q (client.answer c')) :
    (client.hypervisor.call c).Alike (fun w v => Wire.Alike K w.remote v.remote) Q
      (client.hypervisor.call c') :=
  .call_ofSteps (fun _ => rfl) (fun _ => rfl) (h.mapError _)

/-- The web interface does not answer to parameters; what is read of configurations comes from replies. -/
theorem oblivious {C : Remote → Prop} (hC : ∀ data remote, Told K data → Remote.ofJson? data = some remote →
    C (decodeParams remote)) :
    client.hypervisor.Oblivious (fun w v => Wire.Alike K w.remote v.remote) C where
  same c := client.alike_call c c Eq (client.alike_answer c)
  configuration id := by
    refine client.alike_call (.configuration id) (.configuration id) _
      ((client.alike_configuration id).imp ?_)
    rintro a b ⟨hab, data, remote, htold, hread, rfl⟩
    exact ⟨hab, hC data remote htold hread⟩
  create node request request' hk hi :=
    client.alike_call (.create node request) (.create node request') _ (client.alike_create node hk hi)
  update id request request' he :=
    client.alike_call (.update id request) (.update id request') _
      ((client.alike_update id he).imp fun _ _ _ => trivial)

end Client

end Rest

end Steward
