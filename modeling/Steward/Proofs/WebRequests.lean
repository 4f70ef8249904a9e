/-
How often the web interface is asked. Whatever comes back over the wire, and also when nobody waits to the
end: what changes an instance is requested once, however long its task is asked for; what reads is requested
again only after a failure that may pass, and only so often; and a copy is requested again only after an
attempt that failed, always in the same words.
-/
import Mathlib
import Steward.Proofs.Transcript
import Steward.Rest.Client

namespace Steward

namespace Rest

variable {ε α β : Type}

/-! ## Trips over a wire -/

/-- A request and what came of it. -/
structure Trip where
  request : Sent
  reply : Except RestError Json

/-- Whether what comes of a request shows that it has arrived. -/
def arrived : Except RestError Json → Bool
  | .error .unreachable => false
  | _ => true

theorem Reply.arrived_read (reply : Reply) : arrived reply.read = reply.arrives := by
  cases reply with
  | dropped | unconnected => rfl
  | answer status body =>
    rw [read]
    cases isSuccess status with
    | true => cases envelope? body <;> rfl
    | false =>
      rw [if_neg (by decide), RestError.ofStatus]
      split <;> rfl

namespace Wire

/-- The trips that lead from one wire to another. -/
inductive Leads : Wire → List Trip → Wire → Prop
  | stay (w : Wire) : Leads w [] w
  | trip {w v : Wire} {request : Sent} {trips : List Trip} :
      Leads (w.after request) trips v → Leads w (⟨request, w.next.read⟩ :: trips) v

namespace Leads

variable {w v x : Wire} {trips more : List Trip}

theorem trans (h : w.Leads trips v) (hmore : v.Leads more x) : w.Leads (trips ++ more) x := by
  induction h with
  | stay => exact hmore
  | trip _ ih => exact .trip (ih hmore)

/-- The requests arrive in their order, but for those that there was no connection for. -/
theorem sent (h : w.Leads trips v) :
    v.sent = ((trips.filter fun trip => arrived trip.reply).map Trip.request).reverse ++ w.sent := by
  induction h with
  | stay w => rfl
  | @trip w v request trips _ ih =>
    rw [ih, after, List.filter_cons, Reply.arrived_read]
    cases w.next.arrives <;> simp

end Leads

end Wire

open Steps

/-- Steps that make such trips for such a result, which is none where they panic or are cut off. -/
def Sends (p : Steps Wire ε α) (Q : Option (Except ε α) → List Trip → Prop) : Prop :=
  ∀ deadline w t, ∃ trips, w.Leads trips (p deadline w t).state ∧ Q (p deadline w t).result? trips

namespace Sends

variable {p : Steps Wire ε α} {P Q : Option (Except ε α) → List Trip → Prop}
  {R : Option (Except ε β) → List Trip → Prop}

theorem imp (h : Sends p P) (hPQ : ∀ result? trips, P result? trips → Q result? trips) : Sends p Q := by
  intro deadline w t
  obtain ⟨trips, hleads, hP⟩ := h deadline w t
  exact ⟨trips, hleads, hPQ _ _ hP⟩

theorem pure {a : α} (hQ : Q (some (.ok a)) []) : Sends (Pure.pure a) Q := fun _ w _ => ⟨[], .stay w, hQ⟩

theorem throw {e : ε} (hQ : Q (some (.error e)) []) : Sends (Steps.throw e) Q :=
  fun _ w _ => ⟨[], .stay w, hQ⟩

theorem ofExcept {x : Except ε α} (hQ : Q (some x) []) : Sends (Steps.ofExcept x) Q := by
  cases x with
  | ok a => exact pure hQ
  | error e => exact throw hQ

theorem never (hQ : Q none []) : Sends Steps.never Q := fun _ w _ => ⟨[], .stay w, hQ⟩

theorem panic (hQ : Q none []) : Sends Steps.panic Q := fun _ w _ => ⟨[], .stay w, hQ⟩

theorem bind {next : α → Steps Wire ε β} (h : Sends p P) (hcut : ∀ trips, P none trips → R none trips)
    (herror : ∀ e trips, P (some (.error e)) trips → R (some (.error e)) trips)
    (hnext : ∀ a trips, P (some (.ok a)) trips →
      Sends (next a) fun result? more => R result? (trips ++ more)) :
    Sends (p >>= next) R := by
  intro deadline w t
  change ∃ trips, w.Leads trips (Steps.bind p next deadline w t).state ∧
    R (Steps.bind p next deadline w t).result? trips
  rw [Steps.bind]
  obtain ⟨trips, hleads, hP⟩ := h deadline w t
  generalize p deadline w t = ending at hleads hP ⊢
  cases ending with
  | panicked v u | cut v => exact ⟨trips, hleads, hcut trips hP⟩
  | done result v u =>
    cases result with
    | error e => exact ⟨trips, hleads, herror e trips hP⟩
    | ok a =>
      obtain ⟨more, hmore, hR⟩ := hnext a trips hP deadline v u
      exact ⟨trips ++ more, hleads.trans hmore, hR⟩

theorem bind_attempt {next : Except ε α → Steps Wire ε β} (h : Sends p P)
    (hcut : ∀ trips, P none trips → R none trips)
    (hnext : ∀ result trips, P (some result) trips →
      Sends (next result) fun last? more => R last? (trips ++ more)) :
    Sends (p.attempt >>= next) R := by
  have hattempt : Sends p.attempt fun result? trips => ∃ last?, result? = last?.map .ok ∧ P last? trips := by
    intro deadline w t
    rw [Steps.attempt]
    obtain ⟨trips, hleads, hP⟩ := h deadline w t
    generalize p deadline w t = ending at hleads hP ⊢
    cases ending with
    | panicked v u | cut v => exact ⟨trips, hleads, none, rfl, hP⟩
    | done result v u => exact ⟨trips, hleads, some result, rfl, hP⟩
  refine hattempt.bind (fun trips hP => ?_) (fun e trips hP => ?_) fun result trips hP => ?_
  · obtain ⟨last?, hlast, hP⟩ := hP
    cases last? with
    | none => exact hcut trips hP
    | some last => cases hlast
  · obtain ⟨last?, hlast, -⟩ := hP
    cases last? <;> cases hlast
  · obtain ⟨last?, hlast, hP⟩ := hP
    cases last? with
    | none => cases hlast
    | some last =>
      cases hlast
      exact hnext result trips hP

/-- Steps that make no trips, but may panic or be cut off. -/
theorem bind_idle {next : α → Steps Wire ε β}
    (hidle : Sends p fun result? trips => trips = [] ∧ ∀ e, result? ≠ some (.error e)) (hcut : R none [])
    (hnext : ∀ a, Sends (next a) R) : Sends (p >>= next) R := by
  refine hidle.bind (fun trips htrips => ?_) (fun e trips htrips => absurd rfl (htrips.2 e))
    fun a trips htrips => ?_
  · exact htrips.1 ▸ hcut
  · exact htrips.1 ▸ hnext a

theorem idle_sleep (d : Duration) :
    Sends (Steps.sleep d : Steps Wire ε Unit) fun result? trips =>
      trips = [] ∧ ∀ e, result? ≠ some (.error e) := by
  intro deadline w t
  simp only [Steps.sleep]
  split <;> exact ⟨[], .stay w, rfl, by simp [Ending.result?]⟩

theorem idle_pause (b : Backoff) (attempt : Nat) :
    Sends (b.pause attempt : Steps Wire ε Unit) fun result? trips =>
      trips = [] ∧ ∀ e, result? ≠ some (.error e) := by
  unfold Backoff.pause
  split
  · exact idle_sleep _
  · exact .panic ⟨rfl, by simp⟩

end Sends

/-! ## Trying again -/

section Tries

variable {ι : Type}

/-- Tries, each after the first only because the one before it calls for another; the last one is what they
come to. -/
structure Repeated (again : ι → Bool) (outcome : ι → Option (Except RestError α))
    (result? : Option (Except RestError α)) (tries : List ι) : Prop where
  called : ∀ before i later, tries = before ++ i :: later → later ≠ [] → again i = true
  answered : ∀ result, result? = some result → ∃ last ∈ tries.getLast?, outcome last = some result

/-- Tries of which there are so many at most, and which are not given up before. -/
structure Retried (budget : Nat) (again : ι → Bool) (outcome : ι → Option (Except RestError α))
    (result? : Option (Except RestError α)) (tries : List ι) : Prop
    extends Repeated again outcome result? tries where
  bounded : tries.length ≤ budget
  exhausted : ∀ last ∈ tries.getLast?, again last = true → result?.isSome = true → tries.length = budget

variable {again : ι → Bool} {outcome : ι → Option (Except RestError α)}
  {result? : Option (Except RestError α)} {tries : List ι} {budget : Nat} {i : ι}

namespace Repeated

theorem nil : Repeated again outcome none [] := ⟨by simp, by simp⟩

/-- One try, which is all, or is cut off. -/
theorem once (h : ∀ result, result? = some result → outcome i = some result) :
    Repeated again outcome result? [i] where
  called before j later hsplit hlater := by
    cases before with
    | nil => exact absurd (List.cons.inj hsplit).2.symm hlater
    | cons other before => simp at hsplit
  answered result hresult := ⟨i, rfl, h result hresult⟩

theorem cons (hi : again i = true) (h : Repeated again outcome result? tries) :
    Repeated again outcome result? (i :: tries) where
  called before j later hsplit hlater := by
    cases before with
    | nil => exact (List.cons.inj hsplit).1 ▸ hi
    | cons other before => exact h.called before j later (List.cons.inj hsplit).2 hlater
  answered result hresult := by
    obtain ⟨last, hlast, hout⟩ := h.answered result hresult
    exact ⟨last, by rw [List.getLast?_cons, hlast]; rfl, hout⟩

end Repeated

namespace Retried

theorem nil : Retried budget again outcome none [] := ⟨.nil, Nat.zero_le _, by simp⟩

theorem once (h : ∀ result, result? = some result → outcome i = some result) (hb : 1 ≤ budget)
    (hi : again i = true → result?.isSome = true → budget = 1) : Retried budget again outcome result? [i] where
  toRepeated := .once h
  bounded := hb
  exhausted j hj hagain hsome := by
    obtain rfl : i = j := by simpa using hj
    exact (hi hagain hsome).symm

theorem cons (hi : again i = true) (h : Retried budget again outcome result? tries) :
    Retried (budget + 1) again outcome result? (i :: tries) where
  toRepeated := .cons hi h.toRepeated
  bounded := Nat.succ_le_succ h.bounded
  exhausted j hj hagain hsome := by
    obtain ⟨result, hresult⟩ := Option.isSome_iff_exists.1 hsome
    obtain ⟨last, hlast, -⟩ := h.answered result hresult
    rw [List.getLast?_cons, hlast] at hj
    obtain rfl : last = j := by simpa using hj
    exact congrArg (· + 1) (h.exhausted last hlast hagain hsome)

/-- What the tries come to is taken for something else. -/
theorem bind (h : Retried budget again outcome result? tries) (f : α → Except RestError β) :
    Retried budget again (fun i => (outcome i).map fun r => r >>= f) (result?.map fun r => r >>= f) tries where
  called := h.called
  bounded := h.bounded
  answered result hresult := by
    obtain ⟨r, hr, rfl⟩ := Option.map_eq_some_iff.1 hresult
    obtain ⟨last, hlast, hout⟩ := h.answered r hr
    exact ⟨last, hlast, by rw [hout]; rfl⟩
  exhausted last hlast hagain hsome := h.exhausted last hlast hagain (by simpa using hsome)

end Retried

end Tries

/-! ## Requests -/

/-- The requests among some trips that are not for reading. -/
def mutations (trips : List Trip) : List Sent :=
  (trips.map Trip.request).filter fun s => decide (s.method ≠ .get)

theorem mutations_append (xs ys : List Trip) : mutations (xs ++ ys) = mutations xs ++ mutations ys := by
  rw [mutations, List.map_append, List.filter_append]
  rfl

theorem mutations_eq_nil {trips : List Trip} (h : ∀ trip ∈ trips, trip.request.method = .get) :
    mutations trips = [] := by
  rw [mutations, List.filter_eq_nil_iff]
  intro s hs
  obtain ⟨trip, htrip, rfl⟩ := List.mem_map.1 hs
  simp [h trip htrip]

theorem sends_exchange (request : Sent) :
    Sends (exchange request) fun result? trips =>
      ∃ reply, result? = some reply ∧ trips = [⟨request, reply⟩] := by
  exact fun deadline w t => ⟨[⟨request, w.next.read⟩], .trip (.stay _), w.next.read, rfl, rfl⟩

/-- Steps that go on from what comes of a request, a failure included. -/
theorem Sends.bind_exchange {request : Sent} {next : Except RestError Json → Steps Wire RestError α}
    {R : Option (Except RestError α) → List Trip → Prop}
    (hnext : ∀ reply, Sends (next reply) fun result? more => R result? (⟨request, reply⟩ :: more)) :
    Sends ((exchange request).attempt >>= next) R := by
  refine (sends_exchange request).bind_attempt (fun trips h => ?_) fun result trips h => ?_
  · obtain ⟨reply, hreply, -⟩ := h
    cases hreply
  · obtain ⟨reply, hreply, rfl⟩ := h
    cases hreply
    exact hnext result

/-- Whether a trip failed in a way that may pass. -/
def Trip.mayPass (trip : Trip) : Bool :=
  match trip.reply with
  | .ok _ => false
  | .error e => e.isTransient

theorem RestError.isTransient_ofStatus (code : UInt16) (body : String) :
    (RestError.ofStatus code body).isTransient = true ↔
      500 ≤ code ∧ ¬(code = 500 ∧ Text.contains (errorText body) "does not exist" = true) := by
  rw [RestError.ofStatus]
  by_cases hmissing : code = 404 ∨ code = 500 ∧ Text.contains (errorText body) "does not exist" = true
  · rw [if_pos hmissing]
    refine iff_of_false (by simp [RestError.isTransient]) fun ⟨hcode, hnot⟩ => ?_
    rcases hmissing with rfl | hmissing
    · exact absurd hcode (by decide)
    · exact hnot hmissing
  · rw [if_neg hmissing]
    simp only [RestError.isTransient, decide_eq_true_eq]
    exact ⟨fun hcode => ⟨hcode, fun hsays => hmissing (.inr hsays)⟩, And.left⟩

/-- A trip may be made again if there was no connection for it, or the interface could not do what was asked for,
unless it says that something does not exist. -/
theorem Trip.mayPass_iff (request : Sent) (reply : Reply) :
    Trip.mayPass ⟨request, reply.read⟩ = true ↔ reply = .unconnected ∨ ∃ code body,
      reply = .answer code body ∧ 500 ≤ code ∧
        ¬(code = 500 ∧ Text.contains (errorText body) "does not exist" = true) := by
  cases reply with
  | dropped | unconnected => simp [mayPass, Reply.read, RestError.isTransient]
  | answer code body =>
    rw [mayPass, Reply.read]
    cases hcode : isSuccess code with
    | true =>
      have hlow : ¬ 500 ≤ code := by
        simp only [isSuccess, Bool.and_eq_true, decide_eq_true_eq] at hcode
        exact fun hhigh => absurd (UInt16.lt_of_le_of_lt hhigh hcode.2) (by decide)
      cases envelope? body <;> simp [RestError.isTransient, hlow]
    | false => simpa using RestError.isTransient_ofStatus code body

/-- An attempt to change something: the trips that it takes and what it comes to, unless it is cut off. -/
structure Attempt where
  outcome : Option (Except RestError Unit)
  trips : List Trip

/-- Whether an attempt to copy failed and another one may help: not if something is missing or wrong. -/
def Attempt.mayHelp (a : Attempt) : Bool :=
  match a.outcome with
  | some (.error (.notFound _)) | some (.error (.configuration _)) => false
  | some (.error _) => true
  | _ => false

namespace Client

variable (client : Client)

/-- What a request of the client says. -/
def sent (method : Method) (path : String) (form : Option Form) : Sent :=
  ⟨method, pathOf (client.url ++ path), client.authorization, form⟩

/-! ## Reading -/

/-- The trips of a reading that is tried so many times at most: the same request each time, again only after
a failure that may pass, and the last reply is what it comes to, read by `interpret`. -/
structure Reading (path : String) (budget : Nat) (interpret : Json → Except RestError α)
    (result? : Option (Except RestError α)) (trips : List Trip) : Prop where
  request : ∀ trip ∈ trips, trip.request = client.sent .get path none
  retried : Retried budget Trip.mayPass (fun trip => some (trip.reply >>= interpret)) result? trips

theorem Reading.mutations {client : Client} {path : String} {budget : Nat}
    {interpret : Json → Except RestError α} {result? : Option (Except RestError α)} {trips : List Trip}
    (h : client.Reading path budget interpret result? trips) : mutations trips = [] :=
  mutations_eq_nil fun trip htrip => by rw [h.request trip htrip]; rfl

theorem sends_readFrom (path : String) (attempt more : Nat) :
    Sends (client.readFrom path attempt more) fun result? trips =>
      (∀ trip ∈ trips, trip.request = client.sent .get path none) ∧
        Retried (more + 1) Trip.mayPass (fun trip => some trip.reply) result? trips := by
  induction more generalizing attempt with
  | zero =>
    refine (sends_exchange _).imp ?_
    rintro _ _ ⟨reply, rfl, rfl⟩
    exact ⟨by simp [sent], .once (by simp) le_rfl fun _ _ => rfl⟩
  | succ more ih =>
    refine .bind_exchange fun reply => ?_
    have hrequest {rest : List Trip} (h : ∀ trip ∈ rest, trip.request = client.sent .get path none) :
        ∀ trip ∈ (⟨client.sent .get path none, reply⟩ : Trip) :: rest,
          trip.request = client.sent .get path none :=
      List.forall_mem_cons.2 ⟨rfl, h⟩
    cases reply with
    | ok data => exact .pure ⟨hrequest (by simp), .once (by simp) (by omega) fun hpass => (by cases hpass)⟩
    | error e =>
      dsimp only
      split
      · rename_i hpass
        refine .bind_idle (.idle_pause _ _) ⟨hrequest (by simp), .cons hpass .nil⟩ fun _ => ?_
        exact (ih (attempt + 1)).imp fun result? more h => ⟨hrequest h.1, .cons hpass h.2⟩
      · rename_i hfinal
        exact .throw ⟨hrequest (by simp), .once (by simp) (by omega) fun hpass => absurd hpass hfinal⟩

/-- How often a reading is tried at most. -/
def readBudget : Nat := max 1 client.backoff.maxAttempts.toNat

/-- A reading of which the data is taken for something. -/
theorem sends_read (path : String) {interpret : Json → Except RestError α}
    {next : Json → Steps Wire RestError α} (hnext : ∀ data, next data = Steps.ofExcept (interpret data)) :
    Sends (client.read path >>= next) (client.Reading path client.readBudget interpret) := by
  have hbudget : client.backoff.maxAttempts.toNat - 1 + 1 = client.readBudget := by
    rw [readBudget]
    omega
  refine (client.sends_readFrom path 1 _).bind (fun trips h => ?_) (fun e trips h => ?_) fun data trips h => ?_
  · exact ⟨h.1, hbudget ▸ h.2.bind interpret⟩
  · exact ⟨h.1, hbudget ▸ h.2.bind interpret⟩
  · rw [hnext]
    refine .ofExcept ?_
    rw [List.append_nil]
    exact ⟨h.1, hbudget ▸ h.2.bind interpret⟩

/-! ## Changing -/

/-- The questions for a task: the same one until a reply says how the task ended. -/
structure Questions (node task : String) (result? : Option (Except RestError Unit)) (trips : List Trip) :
    Prop where
  request : ∀ trip ∈ trips, trip.request = client.sent .get (taskPath node task) none
  repeated : Repeated (fun trip => (taskEnd? task trip.reply).isNone) (fun trip => taskEnd? task trip.reply)
    result? trips

/-- The trips of a change: one request, and then only questions for the task that it started. -/
inductive Mutation (method : Method) (node path : String) (form : Form) :
    Option (Except RestError Unit) → List Trip → Prop
  | refused (e : RestError) :
      Mutation method node path form (some (.error e)) [⟨client.sent method path (some form), .error e⟩]
  | done {data : Json} : startedTask? data = none →
      Mutation method node path form (some (.ok ())) [⟨client.sent method path (some form), .ok data⟩]
  | task {data : Json} {task : String} {result? : Option (Except RestError Unit)} {trips : List Trip} :
      startedTask? data = some task → client.Questions node task result? trips →
      Mutation method node path form result? (⟨client.sent method path (some form), .ok data⟩ :: trips)

theorem sends_waitFrom (node task : String) (questions : Nat) :
    Sends (client.waitFrom node task questions) (client.Questions node task) := by
  induction questions with
  | zero => exact .never ⟨by simp, .nil⟩
  | succ questions ih =>
    refine .bind_exchange fun reply => ?_
    have hrequest {rest : List Trip} (h : ∀ trip ∈ rest, trip.request = client.sent .get (taskPath node task) none) :
        ∀ trip ∈ (⟨client.sent .get (taskPath node task) none, reply⟩ : Trip) :: rest,
          trip.request = client.sent .get (taskPath node task) none :=
      List.forall_mem_cons.2 ⟨rfl, h⟩
    split
    · rename_i result hend
      exact .ofExcept ⟨hrequest (by simp), .once fun _ hresult => hend.trans hresult⟩
    · rename_i hend
      have hagain : (taskEnd? task reply).isNone = true := by rw [hend]; rfl
      refine .bind_idle (.idle_sleep _) ⟨hrequest (by simp), .cons hagain .nil⟩ fun _ => ?_
      exact ih.imp fun result? more h => ⟨hrequest h.1, .cons hagain h.2⟩

theorem sends_mutate (method : Method) (node path : String) (form : Form) :
    Sends (client.mutate method node path form) (client.Mutation method node path form) := by
  refine (sends_exchange _).bind (fun trips h => ?_) (fun e trips h => ?_) fun data trips h => ?_
  · obtain ⟨reply, hreply, -⟩ := h
    cases hreply
  · obtain ⟨reply, hreply, rfl⟩ := h
    cases hreply
    exact .refused e
  · obtain ⟨reply, hreply, rfl⟩ := h
    cases hreply
    split
    · rename_i task htask
      have hwait : Sends (client.waitForTask node task) (client.Questions node task) :=
        fun deadline w t => client.sends_waitFrom node task (w.replies.length + 1) deadline w t
      exact hwait.imp fun result? more h => .task htask h
    · rename_i htask
      exact .pure (.done htask)

/-- A change sends one request that is not for reading. -/
theorem Mutation.mutations {client : Client} {method : Method} {node path : String} {form : Form}
    {result? : Option (Except RestError Unit)} {trips : List Trip} (hm : method ≠ .get)
    (h : client.Mutation method node path form result? trips) :
    Rest.mutations trips = [client.sent method path (some form)] := by
  have hfirst (reply : Except RestError Json) :
      Rest.mutations [⟨client.sent method path (some form), reply⟩] = [client.sent method path (some form)] := by
    simp [Rest.mutations, sent, hm]
  cases h with
  | refused e => exact hfirst _
  | done => exact hfirst _
  | task _ hquestions =>
    rw [← List.singleton_append, mutations_append, hfirst,
      mutations_eq_nil fun trip htrip => by rw [hquestions.request trip htrip]; rfl, List.append_nil]

/-! ## Copying -/

/-- The attempts of a copy, so many at most: each is the same change, made again only after an attempt that
failed where another one may help; the last one is what it comes to. -/
structure Copying (node path : String) (form : Form) (budget : Nat)
    (result? : Option (Except RestError Unit)) (attempts : List Attempt) : Prop where
  mutation : ∀ a ∈ attempts, client.Mutation .post node path form a.outcome a.trips
  retried : Retried budget Attempt.mayHelp Attempt.outcome result? attempts

theorem Copying.mutations {client : Client} {node path : String} {form : Form} {budget : Nat}
    {result? : Option (Except RestError Unit)} {attempts : List Attempt}
    (h : client.Copying node path form budget result? attempts) :
    Rest.mutations (attempts.flatMap Attempt.trips) =
      List.replicate attempts.length (client.sent .post path (some form)) := by
  have hall := h.mutation
  clear h
  induction attempts with
  | nil => rfl
  | cons a rest ih =>
    rw [List.forall_mem_cons] at hall
    rw [List.flatMap_cons, mutations_append, hall.1.mutations (by decide), ih hall.2, List.length_cons,
      List.replicate_succ, List.singleton_append]

theorem sends_cloneFrom (node path : String) (form : Form) (attempt more : Nat) :
    Sends (client.cloneFrom node path form attempt more) fun result? trips =>
      ∃ attempts, trips = attempts.flatMap Attempt.trips ∧
        client.Copying node path form (more + 1) result? attempts := by
  have honce {outcome : Option (Except RestError Unit)} {trips : List Trip} {budget : Nat}
      (h : client.Mutation .post node path form outcome trips) (hb : 1 ≤ budget)
      (hlast : Attempt.mayHelp ⟨outcome, trips⟩ = true → outcome.isSome = true → budget = 1) :
      ∃ attempts : List Attempt, trips = attempts.flatMap Attempt.trips ∧
        client.Copying node path form budget outcome attempts :=
    ⟨[⟨outcome, trips⟩], by simp, by simpa using h, .once (fun _ hresult => hresult) hb hlast⟩
  induction more generalizing attempt with
  | zero =>
    exact (client.sends_mutate .post node path form).imp fun result? trips h => honce h le_rfl fun _ _ => rfl
  | succ more ih =>
    refine (client.sends_mutate .post node path form).bind_attempt
      (fun trips h => honce h (by omega) (by simp)) fun result trips h => ?_
    have hstop (hfinal : Attempt.mayHelp ⟨some result, trips⟩ = false) :
        ∃ attempts : List Attempt, trips ++ [] = attempts.flatMap Attempt.trips ∧
          client.Copying node path form (more + 1 + 1) (some result) attempts := by
      rw [List.append_nil]
      exact honce h (by omega) fun hhelp => by rw [hfinal] at hhelp; cases hhelp
    have hagain (hhelp : Attempt.mayHelp ⟨some result, trips⟩ = true)
        {result? : Option (Except RestError Unit)} {attempts : List Attempt}
        (hrest : client.Copying node path form (more + 1) result? attempts) :
        client.Copying node path form (more + 1 + 1) result? (⟨some result, trips⟩ :: attempts) :=
      ⟨List.forall_mem_cons.2 ⟨h, hrest.mutation⟩, .cons hhelp hrest.retried⟩
    cases result with
    | ok a => exact .pure (hstop rfl)
    | error e =>
      dsimp only
      split
      · exact .throw (hstop rfl)
      · exact .throw (hstop rfl)
      · rename_i hmissing hwrong
        have hhelp : Attempt.mayHelp ⟨some (.error e), trips⟩ = true := by
          unfold Attempt.mayHelp
          cases e <;> simp_all
        refine .bind_idle (.idle_pause _ _) ?_ fun _ => (ih (attempt + 1)).imp fun result? rest hrest => ?_
        · exact ⟨[⟨some (.error e), trips⟩], by simp, hagain hhelp ⟨by simp, .nil⟩⟩
        · obtain ⟨attempts, rfl, hcopying⟩ := hrest
          exact ⟨⟨some (.error e), trips⟩ :: attempts, by simp, hagain hhelp hcopying⟩

/-! ## Calls -/

/-- What is read as a number that no instance has. -/
def readNumber (data : Json) : Except RestError UInt32 :=
  match nextId? data with
  | some id => .ok id
  | none => .error (.unexpected ("nextid returned " ++ data.toText))

def readParams (data : Json) : Except RestError Remote :=
  match Remote.ofJson? data with
  | some remote => .ok (decodeParams remote)
  | none => .error .malformed

def readStatus (data : Json) : Except RestError Status :=
  match Status.ofJson? data with
  | some status => .ok status
  | none => .error .malformed

theorem sends_nextId :
    Sends client.nextId (client.Reading nextIdPath client.readBudget readNumber) :=
  client.sends_read nextIdPath fun data => by
    rw [readNumber]
    cases nextId? data <;> rfl

/-- The number of a new instance: the wanted one, or one that is asked for. -/
def Lookup (wanted : Option UInt32) (looked : Option (Except RestError UInt32)) (trips : List Trip) : Prop :=
  match wanted with
  | some id => looked = some (.ok id) ∧ trips = []
  | none => client.Reading nextIdPath client.readBudget readNumber looked trips

theorem Lookup.mutations {client : Client} {wanted : Option UInt32}
    {looked : Option (Except RestError UInt32)} {trips : List Trip} (h : client.Lookup wanted looked trips) :
    Rest.mutations trips = [] := by
  cases wanted with
  | some id =>
    rw [h.2]
    rfl
  | none => exact Reading.mutations h

/-- What is done under a number for a new instance, and nothing if there is none. -/
def Numbered (wanted : Option UInt32) (rest : UInt32 → Option (Except RestError Unit) → List Trip → Prop)
    (result? : Option (Except RestError UInt32)) (trips : List Trip) : Prop :=
  ∃ looked lookup changes, trips = lookup ++ changes ∧ client.Lookup wanted looked lookup ∧
    Rest.mutations lookup = [] ∧
    match looked with
    | some (.ok id) => ∃ outcome, rest id outcome changes ∧ result? = outcome.map fun r => r.map fun _ => id
    | failed => changes = [] ∧ result? = failed

/-- The changes that are made under a number are those for it. -/
theorem Numbered.mutations {client : Client} {wanted : Option UInt32}
    {rest : UInt32 → Option (Except RestError Unit) → List Trip → Prop}
    {result? : Option (Except RestError UInt32)} {trips : List Trip}
    (h : client.Numbered wanted rest result? trips) :
    Rest.mutations trips = [] ∨
      ∃ id outcome changes, rest id outcome changes ∧ Rest.mutations trips = Rest.mutations changes := by
  obtain ⟨looked, lookup, changes, rfl, -, hlookup, hrest⟩ := h
  rw [mutations_append, hlookup, List.nil_append]
  rcases looked with _ | (e | id)
  · exact .inl (by rw [hrest.1]; rfl)
  · exact .inl (by rw [hrest.1]; rfl)
  · obtain ⟨outcome, hrest, -⟩ := hrest
    exact .inr ⟨id, outcome, changes, hrest, rfl⟩

theorem sends_idFor (wanted : Option UInt32) : Sends (client.idFor wanted) (client.Lookup wanted) := by
  cases wanted with
  | some id => exact .pure ⟨rfl, rfl⟩
  | none => exact client.sends_nextId

theorem sends_numbered (wanted : Option UInt32) {next : UInt32 → Steps Wire RestError Unit}
    {rest : UInt32 → Option (Except RestError Unit) → List Trip → Prop}
    (hnext : ∀ id, Sends (next id) (rest id)) :
    Sends (do
      let id ← client.idFor wanted
      next id
      (Steps.pure id : Steps Wire RestError UInt32)) (client.Numbered wanted rest) := by
  refine (client.sends_idFor wanted).bind (fun trips h => ?_) (fun e trips h => ?_) fun id lookup h => ?_
  · exact ⟨none, trips, [], (List.append_nil _).symm, h, h.mutations, rfl, rfl⟩
  · exact ⟨some (.error e), trips, [], (List.append_nil _).symm, h, h.mutations, rfl, rfl⟩
  · refine (hnext id).bind (fun trips hrest => ?_) (fun e trips hrest => ?_) fun a trips hrest => .pure ?_
    · exact ⟨some (.ok id), lookup, trips, rfl, h, h.mutations, none, hrest, rfl⟩
    · exact ⟨some (.ok id), lookup, trips, rfl, h, h.mutations, some (.error e), hrest, rfl⟩
    · exact ⟨some (.ok id), lookup, trips, by simp, h, h.mutations, some (.ok a), hrest, rfl⟩

/-- The trips of the attempts of a copy. -/
def Copied (node path : String) (form : Form) (budget : Nat) (result? : Option (Except RestError Unit))
    (trips : List Trip) : Prop :=
  ∃ attempts, trips = attempts.flatMap Attempt.trips ∧ client.Copying node path form budget result? attempts

theorem sends_create (node : String) (request : CreateRequest) :
    Sends (client.answer (.create node request)) (client.Numbered request.id fun id =>
      client.Mutation .post node (collectionPath node request.kind) (request.form id)) :=
  client.sends_numbered request.id fun _ => client.sends_mutate _ _ _ _

theorem sends_clone (source : Identity) (request : CloneRequest) (attempts : UInt32) :
    Sends (client.answer (.clone source request attempts)) (client.Numbered request.newId fun id =>
      client.Copied source.node (instancePath source "clone") (request.form source.kind id)
        (max 1 attempts.toNat)) := by
  have hbudget : attempts.toNat - 1 + 1 = max 1 attempts.toNat := by omega
  exact client.sends_numbered request.newId fun id => hbudget ▸ client.sends_cloneFrom _ _ _ 1 _

theorem sends_configuration (id : Identity) :
    Sends (client.answer (.configuration id))
      (client.Reading (instancePath id "config") client.readBudget readParams) :=
  client.sends_read (instancePath id "config") fun data => by
    unfold readParams typed
    cases Remote.ofJson? data <;> rfl

theorem sends_status (id : Identity) :
    Sends (client.answer (.status id))
      (client.Reading (instancePath id "status/current") client.readBudget readStatus) :=
  client.sends_read (instancePath id "status/current") fun data => by
    unfold readStatus typed
    cases Status.ofJson? data <;> rfl

end Client

end Rest

/-- The calls that change an instance and are never made again. -/
def Call.isOneShot : Call → Bool
  | clone .. | configuration _ | status _ => false
  | _ => true

namespace Rest.Client

variable (client : Client)

theorem sends_oneShot {c : Call} (hc : c.isOneShot = true) :
    Sends (client.answer c) fun _ trips => (Rest.mutations trips).length ≤ 1 := by
  have hmutate {method : Method} (hm : method ≠ .get) (node path : String) (form : Form) :
      Sends (client.mutate method node path form) fun _ trips => (Rest.mutations trips).length ≤ 1 :=
    (client.sends_mutate method node path form).imp fun _ _ h => (congrArg List.length (h.mutations hm)).le
  cases c with
  | create node request =>
    refine (client.sends_create node request).imp fun result? trips h => ?_
    rcases h.mutations with hnone | ⟨id, outcome, changes, hchange, hsame⟩
    · simp [hnone]
    · rw [hsame, hchange.mutations (by decide)]
      rfl
  | update id request =>
    change Sends (if request.isEmpty then pure () else client.onInstance .put id "config" request.form) _
    split
    · exact .pure (by decide)
    · exact hmutate (by decide) _ _ _
  | moveDisk | resizeDisk | migrate | start | shutdown | stop | reboot => exact hmutate (by decide) _ _ _
  | clone | configuration | status => cases hc

end Rest.Client

end Steward
