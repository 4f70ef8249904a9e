/-
What the parts of a run say to the hypervisor and how they end, whatever it answers. A reading that is never
answered stops a run: every other call is given up after some time, and waiting is reading again and again
until a moment is over. A run panics where a call of it does, or where it is to wait until a moment that the
clock cannot tell. `Steps.Tracks` says what is said in all these cases, one rule for each way to put steps
together, and `Steps.Says` what is said where there is a result.
-/
import Mathlib
import Steward.Proofs.Transcript

namespace Steward

variable {σ τ ε α β : Type}

namespace World

/-- How a world and its log have grown by what was said. -/
def Heard (w : World (Transcribed σ)) (said : List Event) (v : World (Transcribed σ)) : Prop :=
  v.said = w.said ++ said ∧ v.log = (said.map Event.call).reverse ++ w.log

namespace Heard

variable {w v x : World (Transcribed σ)} {said more : List Event}

theorem nothing (w : World (Transcribed σ)) : w.Heard [] w := ⟨(List.append_nil _).symm, rfl⟩

theorem trans (h : w.Heard said v) (hmore : v.Heard more x) : w.Heard (said ++ more) x := by
  refine ⟨by rw [hmore.1, h.1, List.append_assoc], ?_⟩
  rw [hmore.2, h.2, List.map_append, List.reverse_append, List.append_assoc]

theorem transcribing {w : World σ} (h : w.transcribing.Heard said v) :
    v.said = said ∧ v.forget.log = (said.map Event.call).reverse ++ w.log := by
  refine ⟨?_, h.2⟩
  rw [h.1, said_transcribing, List.nil_append]

end Heard

end World

namespace Steps

/-- The last thing that was said is a reading, and it was not answered. -/
def EndsUnanswered (said : List Event) : Prop :=
  ∃ before e, said = before ++ [e] ∧ e.call.isRead = true ∧ e.answer.isNone = true

/-- Why steps that may wait so long panic at the moment `t`: the last call had no answer, or the clock cannot
tell when a wait from then on is over. -/
def Panics (waits : List Duration) (t : Nat) (said : List Event) : Prop :=
  (∃ before e, said = before ++ [e] ∧ e.answer.isNone = true) ∨ ∃ d ∈ waits, Clock.limit ≤ t + d

end Steps

namespace Ending

open Steps

/-- Why an ending is without a result, if it is. -/
def Stops (waits : List Duration) (said : List Event) : Ending σ ε α → Prop
  | .done _ _ _ => True
  | .panicked _ t => Panics waits t said
  | .cut _ => EndsUnanswered said

theorem Stops.append {waits : List Duration} {more : List Event} {ending : Ending σ ε α}
    (h : ending.Stops waits more) (said : List Event) : ending.Stops waits (said ++ more) := by
  cases ending with
  | done result s t => trivial
  | panicked s t =>
    refine h.imp (fun hlast => ?_) id
    obtain ⟨before, e, rfl, hnone⟩ := hlast
    exact ⟨said ++ before, e, (List.append_assoc _ _ _).symm, hnone⟩
  | cut s =>
    obtain ⟨before, e, rfl, hread, hnone⟩ := h
    exact ⟨said ++ before, e, (List.append_assoc _ _ _).symm, hread, hnone⟩

@[simp] theorem stops_mapState (f : σ → τ) (waits : List Duration) (said : List Event)
    (ending : Ending σ ε α) : (ending.mapState f).Stops waits said ↔ ending.Stops waits said := by
  cases ending <;> rfl

end Ending

namespace Steps

/-- A run from the world `w` in which something was said with which `Q` admits its result, or `none` where it
stops. -/
def Leads (w : World (Transcribed σ)) (waits : List Duration)
    (Q : Option (Except Failure α) → List Event → Prop)
    (ending : Ending (World (Transcribed σ)) Failure α) : Prop :=
  ∃ said, w.Heard said ending.state ∧ Q ending.result? said ∧ ending.Stops waits said

/-- Steps that lead there when they have all the time they need; `waits` is how long they may wait for an
instance. -/
def Tracks (noted : Steps (World (Transcribed σ)) Failure α) (waits : List Duration)
    (Q : Option (Except Failure α) → List Event → Prop) : Prop :=
  ∀ w t, Leads w waits Q (noted none w t)

namespace Tracks

variable {noted : Steps (World (Transcribed σ)) Failure α} {waits : List Duration}
  {P Q : Option (Except Failure α) → List Event → Prop}

theorem imp (h : noted.Tracks waits P) (hPQ : ∀ result? said, P result? said → Q result? said) :
    noted.Tracks waits Q := by
  intro w t
  obtain ⟨said, hsaid, hP, hstop⟩ := h w t
  exact ⟨said, hsaid, hPQ _ said hP, hstop⟩

theorem pure {a : α} (hQ : Q (some (.ok a)) []) : Tracks (σ := σ) (Pure.pure a) waits Q :=
  fun w _ => ⟨[], .nothing w, hQ, trivial⟩

theorem throw {why : Failure} (hQ : Q (some (.error why)) []) : Tracks (σ := σ) (Steps.throw why) waits Q :=
  fun w _ => ⟨[], .nothing w, hQ, trivial⟩

theorem ofExcept {x : Except Failure α} (hQ : Q (some x) []) :
    Tracks (σ := σ) (Steps.ofExcept x) waits Q := by
  cases x with
  | ok a => exact pure hQ
  | error why => exact throw hQ

theorem bind {next : α → Steps (World (Transcribed σ)) Failure β}
    {R : Option (Except Failure β) → List Event → Prop} (h : noted.Tracks waits P)
    (hstop : ∀ said, P none said → R none said)
    (herror : ∀ why said, P (some (.error why)) said → R (some (.error why)) said)
    (hnext : ∀ a said, P (some (.ok a)) said →
      (next a).Tracks waits fun result? more => R result? (said ++ more)) :
    (noted >>= next).Tracks waits R := by
  intro w t
  change Leads w waits R (Steps.bind noted next none w t)
  rw [Steps.bind]
  obtain ⟨said, hsaid, hP, hstops⟩ := h w t
  generalize noted none w t = ending at hsaid hP hstops ⊢
  cases ending with
  | panicked v u | cut v => exact ⟨said, hsaid, hstop said hP, hstops⟩
  | done result v u =>
    cases result with
    | error why => exact ⟨said, hsaid, herror why said hP, trivial⟩
    | ok a =>
      obtain ⟨more, hmore, hR, hlast⟩ := hnext a said hP v u
      exact ⟨said ++ more, hsaid.trans hmore, hR, hlast.append said⟩

/-- Steps before which nothing is said. -/
theorem bind_silent {next : α → Steps (World (Transcribed σ)) Failure β}
    {R : Option (Except Failure β) → List Event → Prop}
    (hsilent : ∀ w t, ∃ a u, noted none w t = .done (.ok a) w u) (hnext : ∀ a, (next a).Tracks waits R) :
    (noted >>= next).Tracks waits R := by
  intro w t
  change Leads w waits R (Steps.bind noted next none w t)
  obtain ⟨a, u, hrun⟩ := hsilent w t
  rw [Steps.bind, hrun]
  exact hnext a w u

theorem bind_attempt {next : Except Failure α → Steps (World (Transcribed σ)) Failure β}
    {R : Option (Except Failure β) → List Event → Prop} (h : noted.Tracks waits P)
    (hstop : ∀ said, P none said → R none said)
    (hnext : ∀ result said, P (some result) said →
      (next result).Tracks waits fun last? more => R last? (said ++ more)) :
    (noted.attempt >>= next).Tracks waits R := by
  have hattempt : noted.attempt.Tracks waits fun result? said =>
      ∃ last?, result? = last?.map .ok ∧ P last? said := by
    intro w t
    rw [Steps.attempt]
    obtain ⟨said, hsaid, hP, hstops⟩ := h w t
    generalize noted none w t = ending at hsaid hP hstops ⊢
    cases ending with
    | panicked v u | cut v => exact ⟨said, hsaid, ⟨none, rfl, hP⟩, hstops⟩
    | done result v u => exact ⟨said, hsaid, ⟨some result, rfl, hP⟩, trivial⟩
  refine hattempt.bind (fun said hP => ?_) (fun why said hP => ?_) fun result said hP => ?_
  · obtain ⟨last?, hlast, hP⟩ := hP
    cases last? with
    | none => exact hstop said hP
    | some last => cases hlast
  · obtain ⟨last?, hlast, -⟩ := hP
    cases last? <;> cases hlast
  · obtain ⟨last?, hlast, hP⟩ := hP
    cases last? with
    | none => cases hlast
    | some last =>
      cases hlast
      exact hnext _ said hP

end Tracks

/-- Steps that say something with which `Q` admits their result, if they end with one. -/
def Says (noted : Steps (World (Transcribed σ)) Failure α) (waits : List Duration)
    (Q : Except Failure α → List Event → Prop) : Prop :=
  noted.Tracks waits fun result? said => ∀ result, result? = some result → Q result said

/-- What is said where there is a result. -/
theorem Tracks.toSays {noted : Steps (World (Transcribed σ)) Failure α} {waits : List Duration}
    {Q : Option (Except Failure α) → List Event → Prop} (h : noted.Tracks waits Q) :
    noted.Says waits fun result said => Q (some result) said := by
  refine h.imp fun result? said hQ result hresult => ?_
  rwa [hresult] at hQ

namespace Says

variable {noted : Steps (World (Transcribed σ)) Failure α} {waits : List Duration}
  {P Q : Except Failure α → List Event → Prop}

theorem imp (h : noted.Says waits P) (hPQ : ∀ result said, P result said → Q result said) :
    noted.Says waits Q :=
  Tracks.imp h fun _ said hP result hresult => hPQ result said (hP result hresult)

theorem pure {a : α} (hQ : Q (.ok a) []) : Says (σ := σ) (Pure.pure a) waits Q :=
  Tracks.pure fun _ hresult => Option.some.inj hresult ▸ hQ

theorem throw {why : Failure} (hQ : Q (.error why) []) : Says (σ := σ) (Steps.throw why) waits Q :=
  Tracks.throw fun _ hresult => Option.some.inj hresult ▸ hQ

theorem ofExcept {x : Except Failure α} (hQ : Q x []) : Says (σ := σ) (Steps.ofExcept x) waits Q :=
  Tracks.ofExcept fun _ hresult => Option.some.inj hresult ▸ hQ

theorem bind {next : α → Steps (World (Transcribed σ)) Failure β}
    {R : Except Failure β → List Event → Prop} (h : noted.Says waits P)
    (herror : ∀ why said, P (.error why) said → R (.error why) said)
    (hnext : ∀ a said, P (.ok a) said → (next a).Says waits fun result more => R result (said ++ more)) :
    (noted >>= next).Says waits R := by
  refine Tracks.bind h (fun said _ result hresult => nomatch hresult) (fun why said hP result hresult => ?_)
    fun a said hP => hnext a said (hP _ rfl)
  cases hresult
  exact herror why said (hP _ rfl)

theorem bind_now {next : Nat → Steps (World (Transcribed σ)) Failure β}
    {R : Except Failure β → List Event → Prop} (hnext : ∀ moment, (next moment).Says waits R) :
    (Steps.now >>= next).Says waits R :=
  Tracks.bind_silent (fun _ t => ⟨t, t, rfl⟩) hnext

theorem bind_sleep {d : Duration} {next : Unit → Steps (World (Transcribed σ)) Failure β}
    {R : Except Failure β → List Event → Prop} (hnext : (next ()).Says waits R) :
    (Steps.sleep d >>= next).Says waits R :=
  Tracks.bind_silent (fun _ t => ⟨(), Clock.alarm t d, rfl⟩) fun _ => hnext

theorem bind_attempt {next : Except Failure α → Steps (World (Transcribed σ)) Failure β}
    {R : Except Failure β → List Event → Prop} (h : noted.Says waits P)
    (hnext : ∀ result said, P result said →
      (next result).Says waits fun last more => R last (said ++ more)) :
    (noted.attempt >>= next).Says waits R :=
  Tracks.bind_attempt h (fun _ _ _ hresult => nomatch hresult) fun result said hP =>
    hnext result said (hP _ rfl)

end Says

/-- What a run from the world `w` recounts by its transcript: all its calls are there, and it ends, or stops, as
`Q` admits. -/
structure Recounts (noted : Steps (World (Transcribed σ)) Failure α) (p : Steps (World σ) Failure α)
    (waits : List Duration) (w : World σ) (t : Nat)
    (Q : Option (Except Failure α) → List Event → Prop) : Prop where
  same : (noted none w.transcribing t).mapState World.forget = p none w t
  log : (p none w t).state.log = ((noted.transcript w t).map Event.call).reverse ++ w.log
  ending : Q (p none w t).result? (noted.transcript w t)
  stops : (p none w t).Stops waits (noted.transcript w t)

/-- What holds of a run by what its transcribed steps say. -/
theorem Transcribes.recounts {noted : Steps (World (Transcribed σ)) Failure α} {p : Steps (World σ) Failure α}
    {waits : List Duration} {Q : Option (Except Failure α) → List Event → Prop} (hp : Transcribes noted p)
    (h : noted.Tracks waits Q) (w : World σ) (t : Nat) : Recounts noted p waits w t Q := by
  have hrun := hp.run w t
  obtain ⟨said, hheard, hQ, hstops⟩ := h w.transcribing t
  obtain ⟨hsaid, hlog⟩ := hheard.transcribing
  obtain rfl : noted.transcript w t = said := by rw [transcript, hsaid]
  refine ⟨hrun, ?_, ?_, ?_⟩
  · rw [← hrun, Ending.state_mapState]
    exact hlog
  · rw [← hrun, Ending.result?_mapState]
    exact hQ
  · rw [← hrun, Ending.stops_mapState]
    exact hstops

/-- What a run from the world `w` tells, by its transcript: all its calls are there, and it ends with a result
that `Q` admits, panics for a reason, or stops at a reading that is never answered. -/
structure Tells (noted : Steps (World (Transcribed σ)) Failure α) (p : Steps (World σ) Failure α)
    (waits : List Duration) (w : World σ) (t : Nat) (Q : Except Failure α → List Event → Prop) : Prop where
  same : (noted none w.transcribing t).mapState World.forget = p none w t
  log : (p none w t).state.log = ((noted.transcript w t).map Event.call).reverse ++ w.log
  ending : match p none w t with
    | .cut _ => EndsUnanswered (noted.transcript w t)
    | .panicked _ u => Panics waits u (noted.transcript w t)
    | .done result _ _ => Q result (noted.transcript w t)

theorem Transcribes.tells {noted : Steps (World (Transcribed σ)) Failure α}
    {p : Steps (World σ) Failure α} {waits : List Duration} {Q : Except Failure α → List Event → Prop}
    (hp : Transcribes noted p) (h : noted.Says waits Q) (w : World σ) (t : Nat) :
    Tells noted p waits w t Q := by
  obtain ⟨hsame, hlog, hend, hstops⟩ := hp.recounts h w t
  refine ⟨hsame, hlog, ?_⟩
  cases hrun : p none w t with
  | panicked v u | cut v =>
    rw [hrun] at hstops
    exact hstops
  | done result v u => exact hend result (by rw [hrun]; rfl)

end Steps

namespace Hypervisor

open Steps

variable (h : Hypervisor σ) {waits : List Duration}

/-! ## Calls -/

/-- What comes of a reading is its answer, or that there is none. -/
theorem tracks_call {c : Call} (hc : c.isRead = true) :
    (h.transcribed.call c).Tracks waits fun answer? said => said = [⟨c, answer?⟩] := by
  intro w t
  have hlate (time : Nat) : inTime none time = true := rfl
  simp only [call, transcribed]
  cases (h c w.remote.remote).reaction with
  | silent => exact ⟨[⟨c, none⟩], ⟨rfl, rfl⟩, rfl, [], ⟨c, none⟩, rfl, hc, rfl⟩
  | panicked d after =>
    simp only [hlate, if_true]
    exact ⟨[⟨c, none⟩], ⟨rfl, rfl⟩, rfl, .inl ⟨[], ⟨c, none⟩, rfl, rfl⟩⟩
  | answered d result after =>
    simp only [hlate, if_true]
    exact ⟨[⟨c, some result⟩], ⟨rfl, rfl⟩, rfl, trivial⟩

/-- A reading with all the time it needs is answered, or stops the run. -/
theorem says_call {c : Call} (hc : c.isRead = true) :
    (h.transcribed.call c).Says waits fun result said => said = [⟨c, some result⟩] :=
  (h.tracks_call hc).toSays

/-- What comes of a call with a deadline: the answer, or a timeout. -/
def Answered (c : Call) (result : Except Failure c.Answer) (e : Event) : Prop :=
  e = ⟨c, some result⟩ ∨ e = ⟨c, none⟩ ∧ ∃ text, result = .error (.timeout text)

/-- A call with a deadline ends, unless it panics. -/
theorem tracks_callWithin (what : String) (timeout : Duration) (c : Call) :
    (h.transcribed.callWithin what timeout c).Tracks waits fun result? said =>
      match result? with
      | some result => ∃ e, said = [e] ∧ Answered c result e
      | none => said = [⟨c, none⟩] := by
  intro w t
  have hlate : inTime none (Clock.alarm t timeout) = true := rfl
  simp only [callWithin, within, hlate, if_true, call, transcribed]
  cases (h c w.remote.remote).reaction with
  | silent => exact ⟨[⟨c, none⟩], ⟨rfl, rfl⟩, ⟨⟨c, none⟩, rfl, .inr ⟨rfl, _, rfl⟩⟩, trivial⟩
  | panicked d after =>
    dsimp only
    cases inTime (some (Clock.alarm t timeout)) (t + d) with
    | true => exact ⟨[⟨c, none⟩], ⟨rfl, rfl⟩, rfl, .inl ⟨[], ⟨c, none⟩, rfl, rfl⟩⟩
    | false => exact ⟨[⟨c, none⟩], ⟨rfl, rfl⟩, ⟨⟨c, none⟩, rfl, .inr ⟨rfl, _, rfl⟩⟩, trivial⟩
  | answered d result after =>
    dsimp only
    cases inTime (some (Clock.alarm t timeout)) (t + d) with
    | true => exact ⟨[⟨c, some result⟩], ⟨rfl, rfl⟩, ⟨⟨c, some result⟩, rfl, .inl rfl⟩, trivial⟩
    | false => exact ⟨[⟨c, none⟩], ⟨rfl, rfl⟩, ⟨⟨c, none⟩, rfl, .inr ⟨rfl, _, rfl⟩⟩, trivial⟩

theorem says_callWithin (what : String) (timeout : Duration) (c : Call) :
    (h.transcribed.callWithin what timeout c).Says waits fun result said =>
      ∃ e, said = [e] ∧ Answered c result e :=
  (h.tracks_callWithin what timeout c).toSays

end Hypervisor

namespace Event

/-- A reading of a status that reaches a goal. -/
def shows (goal : Goal) : Event → Bool
  | ⟨.status _, some (.ok status)⟩ => goal.isReached status
  | _ => false

theorem shows_of_failure {e : Event} {why : Failure} (h : e.failure? = some why) (goal : Goal) :
    e.shows goal = false := by
  obtain ⟨call, _ | answer⟩ := e
  · cases h
  · cases answer with
    | ok found => cases h
    | error why => cases call <;> rfl

/-- A reading of the status after which a wait goes on: it does not show the goal, and if it failed, the failure
may pass. -/
structure Inconclusive (id : Identity) (goal : Goal) (e : Event) : Prop where
  call : e.call = .status id
  shows : e.shows goal = false
  passes : ∀ why, e.failure? = some why → why.isTransient = true

/-- An event that makes steps fail: the failure is the answer, or nobody waited for one any longer. -/
def Fails (e : Event) (why : Failure) : Prop :=
  e.failure? = some why ∨ e.answer.isNone = true ∧ why.isTimeout = true

end Event

/-- What is said in waiting for a goal, all of it readings of the status: the last one shows the goal, or
none does, and then one of them failed or it was too late. -/
def Waited (id : Identity) (goal : Goal) (result : Except Failure Unit) (said : List Event) : Prop :=
  (∀ e ∈ said, e.call = .status id) ∧
    match result with
    | .ok () => ∃ before last, said = before ++ [last] ∧ last.shows goal = true ∧
        ∀ e ∈ before, e.shows goal = false
    | .error why => (∀ e ∈ said, e.shows goal = false) ∧
        (why.isTimeout = true ∨ ∃ last ∈ said.getLast?, last.failure? = some why)

/-- What is said by a call that changes something and, if it leads to a state, in waiting for that state. -/
def Conducted (id : Identity) (c : Call) (target : Option RunState) (result : Except Failure Unit)
    (said : List Event) : Prop :=
  ∃ e polls, said = e :: polls ∧ e.call = c ∧
    (e.isOk = false ∧ polls = [] ∧ (∃ why, result = .error why ∧ e.Fails why) ∨
      e.isOk = true ∧
        match target with
        | none => polls = [] ∧ result = .ok ()
        | some state => Waited id (.state state) result polls)

/-- What is said in waiting for a goal, up to the first reading that decides it: one that shows the goal, or one
that fails for good. Where no reading decides it, it becomes too late. -/
inductive Polled (id : Identity) (goal : Goal) : Except Failure Unit → List Event → Prop
  | reached {before : List Event} {last : Event} (hbefore : ∀ e ∈ before, e.Inconclusive id goal)
      (hcall : last.call = .status id) (hlast : last.shows goal = true) :
      Polled id goal (.ok ()) (before ++ [last])
  | failed {before : List Event} {last : Event} {why : Failure} (hbefore : ∀ e ∈ before, e.Inconclusive id goal)
      (hcall : last.call = .status id) (hlast : last.failure? = some why) (hwhy : why.isTransient = false) :
      Polled id goal (.error why) (before ++ [last])
  | late {said : List Event} {why : Failure} (hsaid : ∀ e ∈ said, e.Inconclusive id goal)
      (hwhy : why.isTimeout = true) : Polled id goal (.error why) said

namespace Polled

variable {id : Identity} {goal : Goal} {result : Except Failure Unit} {said : List Event}

theorem cons {e : Event} (he : e.Inconclusive id goal) (h : Polled id goal result said) :
    Polled id goal result (e :: said) := by
  cases h with
  | reached hbefore hcall hlast =>
    rw [← List.cons_append]
    exact .reached (List.forall_mem_cons.2 ⟨he, hbefore⟩) hcall hlast
  | failed hbefore hcall hlast hwhy =>
    rw [← List.cons_append]
    exact .failed (List.forall_mem_cons.2 ⟨he, hbefore⟩) hcall hlast hwhy
  | late hsaid hwhy => exact .late (List.forall_mem_cons.2 ⟨he, hsaid⟩) hwhy

theorem call (h : Polled id goal result said) : ∀ e ∈ said, e.call = .status id := by
  cases h with
  | reached hbefore hcall | failed hbefore hcall =>
    intro e he
    rcases List.mem_append.1 he with he | he
    · exact (hbefore e he).call
    · rwa [List.mem_singleton.1 he]
  | late hsaid => exact fun e he => (hsaid e he).call

theorem waited (h : Polled id goal result said) : Waited id goal result said := by
  refine ⟨h.call, ?_⟩
  cases h with
  | reached hbefore hcall hlast => exact ⟨_, _, rfl, hlast, fun e he => (hbefore e he).shows⟩
  | @failed before last why hbefore hcall hlast hwhy =>
    refine ⟨fun e he => ?_, .inr ⟨last, by simp, hlast⟩⟩
    rcases List.mem_append.1 he with he | he
    · exact (hbefore e he).shows
    · rw [List.mem_singleton.1 he]
      exact Event.shows_of_failure hlast goal
  | late hsaid hwhy => exact ⟨fun e he => (hsaid e he).shows, .inl hwhy⟩

end Polled

namespace Hypervisor

open Steps

variable (h : Hypervisor σ) {waits : List Duration}

/-- The failure of a call comes from its event. -/
theorem Answered.fails {c : Call} {why : Failure} {e : Event} (he : Answered c (.error why) e) :
    e.isOk = false ∧ e.Fails why := by
  rcases he with rfl | ⟨rfl, text, hwhy⟩
  · exact ⟨rfl, .inl rfl⟩
  · rw [Except.error.inj hwhy]
    exact ⟨rfl, .inr ⟨rfl, rfl⟩⟩

theorem Answered.isOk {c : Call} {answer : c.Answer} {e : Event} (he : Answered c (.ok answer) e) :
    e.isOk = true := by
  rcases he with rfl | ⟨-, text, hwhy⟩
  · rfl
  · cases hwhy

theorem Answered.call {c : Call} {result : Except Failure c.Answer} {e : Event} (he : Answered c result e) :
    e.call = c := by
  rcases he with rfl | ⟨rfl, -⟩ <;> rfl

/-- A call after which nothing is waited for. -/
theorem says_conduct (id : Identity) (what : String) (timeout : Duration) (c : Call) (a : α) :
    (h.transcribed.callWithin what timeout c >>= fun _ => Pure.pure a).Says waits fun result said =>
      Conducted id c none (result.map fun _ => ()) said ∧ ∀ b, result = .ok b → b = a := by
  refine (h.says_callWithin what timeout c).bind (fun why said hsaid => ?_) fun answer said hsaid => ?_
  · obtain ⟨e, rfl, he⟩ := hsaid
    refine ⟨⟨e, [], rfl, he.call, .inl ⟨he.fails.1, rfl, why, rfl, he.fails.2⟩⟩, fun b hb => ?_⟩
    cases hb
  · obtain ⟨e, rfl, he⟩ := hsaid
    exact .pure ⟨⟨e, [], rfl, he.call, .inr ⟨he.isOk, rfl, rfl⟩⟩, fun b hb => (Except.ok.inj hb).symm⟩

/-! ## Waiting -/

/-- One reading: it decides the wait, or the wait goes on. -/
theorem says_hasReached (id : Identity) (goal : Goal) :
    (h.transcribed.hasReached id goal).Says waits fun result said =>
      match result with
      | .ok true => Polled id goal (.ok ()) said
      | .ok false => ∃ e, said = [e] ∧ e.Inconclusive id goal
      | .error why => Polled id goal (.error why) said := by
  refine (h.says_call (c := .status id) rfl).bind_attempt fun answer said hsaid => ?_
  subst hsaid
  cases answer with
  | ok status =>
    refine .pure ?_
    cases hreached : goal.isReached status with
    | true => exact @Polled.reached id goal [] _ (by simp) rfl hreached
    | false => exact ⟨_, rfl, rfl, hreached, fun why hwhy => nomatch hwhy⟩
  | error why =>
    dsimp only
    split
    · rename_i hpasses
      refine .pure ⟨_, rfl, rfl, rfl, fun other hother => ?_⟩
      cases hother
      exact hpasses
    · rename_i hlasts
      exact .throw (@Polled.failed id goal [] _ why (by simp) rfl rfl (by simpa using hlasts))

theorem says_pollUntil (id : Identity) (goal : Goal) (polling : Polling) (deadline reads : Nat) :
    (h.transcribed.pollUntil id goal polling deadline reads).Says waits (Polled id goal) := by
  have hlate : Polled id goal (.error (.notReached id goal polling.timeout)) [] := .late (by simp) rfl
  -- A reading after which the wait goes on stands before what the rest of the wait says.
  induction reads with
  | zero => exact .throw hlate
  | succ reads ih =>
    refine (h.says_hasReached id goal).bind (fun _ _ hfailed => hfailed) fun reached said hsaid => ?_
    cases reached with
    | true => exact .pure (by simpa using hsaid)
    | false =>
      obtain ⟨e, rfl, he⟩ := hsaid
      refine .bind_now fun moment => ?_
      split
      · exact .throw (hlate.cons he)
      · exact .bind_sleep (ih.imp fun _ _ hmore => hmore.cons he)

theorem says_waitFor (id : Identity) (goal : Goal) {polling : Polling}
    (hwaits : ∃ d ∈ waits, polling.timeout ≤ d) :
    (h.transcribed.waitFor id goal polling).Says waits (Polled id goal) := by
  intro w t
  rw [waitFor_eq]
  cases hafter : Clock.after? t polling.timeout with
  | some deadline => exact h.says_pollUntil id goal polling deadline _ w t
  | none =>
    obtain ⟨d, hd, hle⟩ := hwaits
    have hbeyond := (Clock.after?_eq_none_iff.1 hafter).trans (Nat.add_le_add_left hle t)
    have hstops : Panics waits t [] := .inr ⟨d, hd, hbeyond⟩
    exact ⟨[], .nothing w, fun result hresult => (by cases hresult), hstops⟩

/-! ## Power -/

/-- What is said by a power action that is needed: its call, and when that has succeeded, what is said in waiting
for its target. -/
inductive Powered (id : Identity) (timeout : Duration) (action : PowerAction) :
    Except Failure Unit → List Event → Prop
  | refused {e : Event} {why : Failure} (hcall : e.call = action.call id timeout) (hok : e.isOk = false)
      (hwhy : e.Fails why) : Powered id timeout action (.error why) [e]
  | made {e : Event} {result : Except Failure Unit} {polls : List Event}
      (hcall : e.call = action.call id timeout) (hok : e.isOk = true)
      (hpolls : Polled id (.state action.target) result polls) : Powered id timeout action result (e :: polls)

theorem Powered.conducted {id : Identity} {timeout : Duration} {action : PowerAction}
    {result : Except Failure Unit} {said : List Event} (h : Powered id timeout action result said) :
    Conducted id (action.call id timeout) (some action.target) result said := by
  cases h with
  | refused hcall hok hwhy => exact ⟨_, [], rfl, hcall, .inl ⟨hok, rfl, _, rfl, hwhy⟩⟩
  | made hcall hok hpolls => exact ⟨_, _, rfl, hcall, .inr ⟨hok, hpolls.waited⟩⟩

theorem says_settle (id : Identity) (interval : Duration) {timeout : Duration} (action : PowerAction)
    (hwaits : timeout ∈ waits) :
    (h.transcribed.settle id interval timeout action).Says waits (Powered id timeout action) := by
  refine .bind_now fun started => (h.says_callWithin _ _ _).bind (fun why said hsaid => ?_)
    fun answer said hsaid => ?_
  · obtain ⟨e, rfl, he⟩ := hsaid
    exact .refused he.call he.fails.1 he.fails.2
  · obtain ⟨e, rfl, he⟩ := hsaid
    exact .bind_now fun _ => (h.says_waitFor _ _ ⟨timeout, hwaits, Nat.sub_le _ _⟩).imp
      fun result polls hpolls => .made he.call he.isOk hpolls

/-- An action and the state after it: what is not needed is not done, and what fails changes nothing. -/
def Acted (id : Identity) (timeout : Duration) (action : PowerAction) (state : PowerState)
    (result : Except Failure PowerState) (said : List Event) : Prop :=
  if action.isNeeded state then
    Conducted id (action.call id timeout) (some action.target) (result.map fun _ => ()) said ∧
      ∀ after, result = .ok after → after = action.reached
  else said = [] ∧ result = .ok state

/-- What an action is answered with in a state, the state after it, and what is said. -/
inductive Handled (id : Identity) (timeout : Duration) (action : PowerAction) (state : PowerState) :
    Except Failure Bool → PowerState → List Event → Prop
  | idle (hidle : action.isNeeded state = false) :
      Handled id timeout action state (.ok (action != .reboot)) state []
  | done {said : List Event} (hneeded : action.isNeeded state = true)
      (hsaid : Powered id timeout action (.ok ()) said) :
      Handled id timeout action state (.ok true) action.reached said
  | failed {why : Failure} {said : List Event} (hneeded : action.isNeeded state = true)
      (hsaid : Powered id timeout action (.error why) said) :
      Handled id timeout action state (.error why) state said

theorem Handled.acted {id : Identity} {timeout : Duration} {action : PowerAction} {state after : PowerState}
    {outcome : Except Failure Bool} {said : List Event}
    (h : Handled id timeout action state outcome after said) :
    Acted id timeout action state (outcome.map fun _ => after) said := by
  cases h with
  | idle hidle =>
    rw [Acted, if_neg (by simp [hidle])]
    exact ⟨rfl, rfl⟩
  | done hneeded hsaid =>
    rw [Acted, if_pos hneeded]
    exact ⟨hsaid.conducted, fun after hafter => (Except.ok.inj hafter).symm⟩
  | failed hneeded hsaid =>
    rw [Acted, if_pos hneeded]
    exact ⟨hsaid.conducted, fun after hafter => nomatch hafter⟩

theorem says_power (id : Identity) (interval : Duration) {timeout : Duration} (action : PowerAction)
    (state : PowerState) (hwaits : timeout ∈ waits) :
    (h.transcribed.power id interval timeout action state).Says waits fun result said =>
      ∃ outcome after, result = .ok (outcome, after) ∧ Handled id timeout action state outcome after said := by
  unfold power
  split
  · rename_i hneeded
    refine (h.says_settle id interval action hwaits).bind_attempt fun result said hsaid => ?_
    cases result with
    | ok a => exact .pure ⟨_, _, rfl, .done hneeded (by simpa using hsaid)⟩
    | error why => exact .pure ⟨_, _, rfl, .failed hneeded (by simpa using hsaid)⟩
  · rename_i hneeded
    exact .pure ⟨_, _, rfl, .idle (by simpa using hneeded)⟩

end Hypervisor

end Steward
