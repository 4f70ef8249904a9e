/-
What a change of the web interface comes to. A change that starts a task is asked about until an answer decides:
that the task has stopped, or that asking fails for good. A task that still runs, one that is not known yet and
a failure that may pass decide nothing. So a change succeeds exactly if it starts no task or its task ends well
(`mutate_ok_iff`).
-/
import Mathlib
import Steward.Proofs.WebRequests

namespace Steward

namespace Rest

variable {α ι : Type}

/-! ## What comes over a wire -/

namespace Wire

/-- What comes of a request by its number, counted from zero. -/
def outcome (w : Wire) (n : Nat) : Except RestError Json :=
  (w.replies[n]?.getD (if w.reachable then .refusal else .unconnected)).read

theorem outcome_zero (w : Wire) : w.outcome 0 = w.next.read := by
  rw [outcome, next, List.head?_eq_getElem?]

theorem outcome_after (w : Wire) (request : Sent) (n : Nat) :
    (w.after request).outcome n = w.outcome (n + 1) := by
  rw [outcome, outcome, after, List.getElem?_tail]

/-- How many of so many requests after the first one arrive. -/
def arrivals (w : Wire) (n : Nat) : Nat := (List.range n).countP fun i => arrived (w.outcome (i + 1))

/-- Where there is a connection all the time, all requests arrive. -/
theorem arrivals_of_connected {w : Wire} (hw : w.reachable = true) (hreplies : .unconnected ∉ w.replies)
    (n : Nat) : w.arrivals n = n := by
  rw [arrivals, List.countP_eq_length.2, List.length_range]
  intro i _
  rw [outcome, Reply.arrived_read, hw]
  cases hreply : w.replies[i + 1]? with
  | none => rfl
  | some reply =>
    have hmem := List.mem_of_getElem? hreply
    cases reply with
    | unconnected => exact absurd hmem hreplies
    | answer | dropped => rfl

/-- When the replies are used up, nothing else comes any more. -/
theorem outcome_of_le (w : Wire) {n : Nat} (hn : w.replies.length ≤ n) :
    w.outcome n = (if w.reachable then Reply.refusal else .unconnected).read := by
  rw [outcome, List.getElem?_eq_none hn, Option.getD_none]

/-- Over a wire everything comes in its order. -/
theorem Leads.getElem?_reply {w v : Wire} {trips : List Trip} (h : w.Leads trips v) {n : Nat} {trip : Trip}
    (htrip : trips[n]? = some trip) : trip.reply = w.outcome n := by
  induction h generalizing n with
  | stay => simp at htrip
  | trip _ ih =>
    cases n with
    | zero =>
      rw [← Option.some.inj htrip, outcome_zero]
    | succ n => rw [ih htrip, outcome_after]

end Wire

/-- Tries that have come to something: the last one decides, all before it call for another. -/
theorem Repeated.split {again : ι → Bool} {outcome : ι → Option (Except RestError α)}
    {result : Except RestError α} {tries : List ι} (h : Repeated again outcome (some result) tries) :
    ∃ before last, tries = before ++ [last] ∧ (∀ i ∈ before, again i = true) ∧ outcome last = some result := by
  obtain ⟨last, hlast, hresult⟩ := h.answered result rfl
  obtain ⟨before, rfl⟩ := List.getLast?_eq_some_iff.1 hlast
  refine ⟨before, last, rfl, fun i hi => ?_, hresult⟩
  obtain ⟨earlier, later, rfl⟩ := List.append_of_mem hi
  exact h.called earlier i (later ++ [last]) (by simp) (by simp)

/-! ## Answers to a question for a task -/

/-- An answer that leaves it open how a task ends: it still runs, it is not known yet, or the question failed in
a way that may pass. -/
inductive Pending : Except RestError Json → Prop
  | running {data : Json} {s : TaskStatus} (hread : TaskStatus.ofJson? data = some s)
      (hstate : s.state = "running") : Pending (.ok data)
  | unknown (message : String) : Pending (.error (.status 400 message))
  | passing {e : RestError} (htransient : e.isTransient = true) : Pending (.error e)

/-- An answer that a task has stopped, and how. -/
inductive Stopped : Except RestError Json → Option String → Prop
  | mk {data : Json} {s : TaskStatus} (hread : TaskStatus.ofJson? data = some s)
      (hstate : s.state ≠ "running") : Stopped (.ok data) s.exit

/-- An answer after which a task is not asked about any more: it cannot be read, or is an error of another kind. -/
inductive Fatal : Except RestError Json → RestError → Prop
  | malformed {data : Json} (hread : TaskStatus.ofJson? data = none) : Fatal (.ok data) .malformed
  | refused {e : RestError} (hknown : ∀ message, e ≠ .status 400 message) (hfinal : e.isTransient = false) :
      Fatal (.error e) e

/-- What decides a wait: the task has stopped, or asking has failed for good. -/
inductive Decides (task : String) (answer : Except RestError Json) : Except RestError Unit → Prop
  | stopped {exit : Option String} (h : Stopped answer exit) : Decides task answer (taskResult task exit)
  | fatal {e : RestError} (h : Fatal answer e) : Decides task answer (.error e)

/-- The exit of a task that did what it was started for, perhaps with warnings. -/
def EndsWell (exit : Option String) : Prop :=
  ∃ text, exit = some text ∧ (text = "OK" ∨ Text.startsWith text "WARNINGS: " = true)

theorem taskResult_eq_ok_iff (task : String) (exit : Option String) :
    taskResult task exit = .ok () ↔ EndsWell exit := by
  unfold taskResult EndsWell
  cases exit with
  | none => simp
  | some text =>
    dsimp only
    split
    · rename_i hwell
      exact iff_of_true rfl ⟨text, rfl, hwell⟩
    · rename_i hbad
      refine iff_of_false (by simp) ?_
      rintro ⟨_, htext, hwell⟩
      exact hbad (Option.some.inj htext ▸ hwell)

namespace Client

variable {task : String} {answer : Except RestError Json}

theorem taskEnd?_of_pending (h : Pending answer) : taskEnd? task answer = none := by
  cases h with
  | running hread hstate =>
    unfold taskEnd?
    simp only [hread, if_pos hstate]
  | unknown message => rfl
  | passing htransient =>
    unfold taskEnd?
    dsimp only
    split
    · rfl
    · rw [if_pos htransient]

theorem taskEnd?_of_stopped {exit : Option String} (h : Stopped answer exit) :
    taskEnd? task answer = some (taskResult task exit) := by
  cases h with
  | mk hread hstate =>
    unfold taskEnd?
    simp only [hread, if_neg hstate]

theorem taskEnd?_of_fatal {e : RestError} (h : Fatal answer e) : taskEnd? task answer = some (.error e) := by
  cases h with
  | malformed hread =>
    unfold taskEnd?
    simp only [hread]
  | refused hknown hfinal =>
    unfold taskEnd?
    dsimp only
    split
    · exact absurd rfl (hknown _)
    · rw [if_neg (by simp [hfinal])]

/-- Each answer is of one of the three kinds. -/
theorem answer_cases (answer : Except RestError Json) :
    Pending answer ∨ (∃ exit, Stopped answer exit) ∨ ∃ e, Fatal answer e := by
  cases answer with
  | ok data =>
    cases hread : TaskStatus.ofJson? data with
    | none => exact .inr (.inr ⟨_, .malformed hread⟩)
    | some s =>
      by_cases hstate : s.state = "running"
      · exact .inl (.running hread hstate)
      · exact .inr (.inl ⟨_, .mk hread hstate⟩)
  | error e =>
    by_cases hknown : ∃ message, e = .status 400 message
    · obtain ⟨message, rfl⟩ := hknown
      exact .inl (.unknown message)
    · cases hfinal : e.isTransient with
      | true => exact .inl (.passing hfinal)
      | false => exact .inr (.inr ⟨e, .refused (not_exists.1 hknown) hfinal⟩)

theorem taskEnd?_eq_none_iff : taskEnd? task answer = none ↔ Pending answer := by
  refine ⟨fun h => ?_, taskEnd?_of_pending⟩
  rcases answer_cases answer with hpending | ⟨exit, hstopped⟩ | ⟨e, hfatal⟩
  · exact hpending
  · rw [taskEnd?_of_stopped hstopped] at h
    cases h
  · rw [taskEnd?_of_fatal hfatal] at h
    cases h

theorem taskEnd?_eq_some_iff {result : Except RestError Unit} :
    taskEnd? task answer = some result ↔ Decides task answer result := by
  constructor
  · intro h
    rcases answer_cases answer with hpending | ⟨exit, hstopped⟩ | ⟨e, hfatal⟩
    · rw [taskEnd?_of_pending hpending] at h
      cases h
    · rw [taskEnd?_of_stopped hstopped] at h
      cases h
      exact .stopped hstopped
    · rw [taskEnd?_of_fatal hfatal] at h
      cases h
      exact .fatal hfatal
  · rintro (hstopped | hfatal)
    · exact taskEnd?_of_stopped hstopped
    · exact taskEnd?_of_fatal hfatal

end Client

/-- Which error answers leave it open how a task ends: that it is not known, and what the interface could not do,
unless it says that something does not exist. -/
theorem pending_read_iff {code : UInt16} (body : String) (h : isSuccess code = false) :
    Pending (Reply.answer code body).read ↔
      code = 400 ∨ 500 ≤ code ∧ ¬(code = 500 ∧ Text.contains (errorText body) "does not exist" = true) := by
  have hread : (Reply.answer code body).read = .error (.ofStatus code body) := by
    rw [Reply.read, if_neg (by simp [h])]
  rw [hread, ← RestError.isTransient_ofStatus]
  constructor
  · intro hpending
    generalize herror : RestError.ofStatus code body = e at hpending
    cases hpending with
    | unknown message =>
      rw [RestError.ofStatus] at herror
      split at herror <;> cases herror
      exact .inl rfl
    | passing htransient => exact .inr htransient
  · rintro (rfl | htransient)
    · exact .unknown _
    · exact .passing htransient

/-! ## Waiting -/

/-- How a task that a change over a wire has started is waited for: so many questions leave its end open, and the
next one decides. What comes of the change itself is number zero. -/
structure Awaited (w : Wire) (task : String) (n : Nat) (result : Except RestError Unit) : Prop where
  pending : ∀ i < n, Pending (w.outcome (i + 1))
  decided : Decides task (w.outcome (n + 1)) result

/-- It takes the first answer that decides. -/
theorem Awaited.unique {w : Wire} {task : String} {n m : Nat} {result other : Except RestError Unit}
    (h : Awaited w task n result) (h' : Awaited w task m other) : n = m ∧ result = other := by
  have hnot {k l : Nat} {last earlier : Except RestError Unit} (hk : Awaited w task k last)
      (hl : Awaited w task l earlier) : ¬ l < k := by
    intro hlt
    have hopen : Client.taskEnd? task (w.outcome (l + 1)) = none := Client.taskEnd?_of_pending (hk.pending l hlt)
    rw [Client.taskEnd?_eq_some_iff.2 hl.decided] at hopen
    cases hopen
  obtain rfl : n = m := Nat.le_antisymm (Nat.le_of_not_lt (hnot h h')) (Nat.le_of_not_lt (hnot h' h))
  have hsame := Client.taskEnd?_eq_some_iff.2 h.decided
  rw [Client.taskEnd?_eq_some_iff.2 h'.decided] at hsame
  exact ⟨rfl, (Option.some.inj hsame).symm⟩

/-- A task is waited for with success exactly if it has stopped well once an answer decides. -/
theorem Awaited.eq_ok_iff {w : Wire} {task : String} {n : Nat} {result : Except RestError Unit}
    (h : Awaited w task n result) : result = .ok () ↔
      ∃ m exit, (∀ i < m, Pending (w.outcome (i + 1))) ∧ Stopped (w.outcome (m + 1)) exit ∧ EndsWell exit := by
  constructor
  · obtain ⟨hpending, hdecided⟩ := h
    cases hdecided with
    | stopped hstopped =>
      intro hok
      exact ⟨n, _, hpending, hstopped, (taskResult_eq_ok_iff _ _).1 hok⟩
    | fatal hfatal => intro hok; cases hok
  · rintro ⟨m, exit, hpending, hstopped, hwell⟩
    have hother : Awaited w task m (taskResult task exit) := ⟨hpending, .stopped hstopped⟩
    rw [(h.unique hother).2, taskResult_eq_ok_iff]
    exact hwell

namespace Client

variable (client : Client)

/-- The questions for a task, with what has come of them over a wire. -/
theorem Questions.awaited {client : Client} {w : Wire} {node task : String} {result : Except RestError Unit}
    {trips : List Trip} (h : client.Questions node task (some result) trips)
    (hreply : ∀ n trip, trips[n]? = some trip → trip.reply = w.outcome (n + 1)) :
    ∃ n, trips = (List.range (n + 1)).map (fun i =>
        ⟨client.sent .get (taskPath node task) none, w.outcome (i + 1)⟩) ∧ Awaited w task n result := by
  obtain ⟨before, last, rfl, hbefore, hlast⟩ := h.repeated.split
  refine ⟨before.length, List.ext_getElem (by simp) fun i hi _ => ?_, fun i hi => ?_, ?_⟩
  · rw [List.getElem_map, List.getElem_range, ← hreply i _ (List.getElem?_eq_getElem hi),
      ← h.request _ (List.getElem_mem hi)]
  · have hith : (before ++ [last])[i]? = some before[i] := by
      rw [List.getElem?_append_left hi, List.getElem?_eq_getElem hi]
    have hanswer := hreply i before[i] hith
    rw [← hanswer]
    exact taskEnd?_eq_none_iff.1 (Option.isNone_iff_eq_none.1 (hbefore _ (List.getElem_mem hi)))
  · have hanswer := hreply before.length last (by simp)
    rw [← hanswer, ← taskEnd?_eq_some_iff]
    exact hlast

/-- A change that is answered: it fails, starts nothing, or its task is waited for. -/
inductive Answered (method : Method) (node path : String) (form : Form) (w v : Wire) :
    Except RestError Unit → Prop
  | refused {e : RestError} (houtcome : w.outcome 0 = .error e) : Answered method node path form w v (.error e)
  | done {data : Json} (houtcome : w.outcome 0 = .ok data) (hnone : startedTask? data = none) :
      Answered method node path form w v (.ok ())
  | task {data : Json} {task : String} {n : Nat} {result : Except RestError Unit}
      (houtcome : w.outcome 0 = .ok data) (htask : startedTask? data = some task)
      (hwait : Awaited w task n result)
      (hsent : v.sent = List.replicate (w.arrivals (n + 1)) (client.sent .get (taskPath node task) none) ++
        client.sent method path (some form) :: w.sent) : Answered method node path form w v result

theorem answered_of_mutate {method : Method} {node path : String} {form : Form} {deadline : Option Nat}
    {w v : Wire} {t u : Nat} {result : Except RestError Unit}
    (hrun : client.mutate method node path form deadline w t = .done result v u) :
    client.Answered method node path form w v result := by
  obtain ⟨trips, hleads, hmutation⟩ := client.sends_mutate method node path form deadline w t
  rw [hrun] at hleads hmutation
  have hreply (n : Nat) (trip : Trip) (htrip : trips[n]? = some trip) : trip.reply = w.outcome n :=
    hleads.getElem?_reply htrip
  cases hmutation with
  | refused e => exact .refused (hreply 0 _ rfl).symm
  | done hnone => exact .done (hreply 0 _ rfl).symm hnone
  | @task data task _ questions htask hquestions =>
    have houtcome := (hreply 0 _ rfl).symm
    obtain ⟨n, rfl, hwait⟩ := hquestions.awaited fun n trip htrip => hreply (n + 1) trip htrip
    refine .task houtcome htask hwait ?_
    have hsent : v.sent = _ := hleads.sent
    rw [hsent, List.filter_cons_of_pos rfl, List.map_cons, List.reverse_cons, List.append_assoc, List.filter_map,
      List.map_map]
    congr 1
    rw [List.reverse_eq_iff, List.reverse_replicate, List.eq_replicate_iff]
    refine ⟨?_, fun request hrequest => ?_⟩
    · rw [List.length_map, ← List.countP_eq_length_filter]
      rfl
    · obtain ⟨i, -, rfl⟩ := List.mem_map.1 hrequest
      rfl

/-! ## How a change ends -/

/-- A question for a task: an answer that decides ends the wait, after another one it is asked again later. -/
theorem waitFrom_eq (node task : String) (questions : Nat) (deadline : Option Nat) (w : Wire) (t : Nat) :
    client.waitFrom node task (questions + 1) deadline w t =
      let v := w.after (client.sent .get (taskPath node task) none)
      let later := Clock.alarm t client.taskInterval
      match taskEnd? task w.next.read with
      | some result => .done result v t
      | none => if Steps.inTime deadline later then client.waitFrom node task questions deadline v later
        else .cut v := by
  have hquestion : (client.request .get (taskPath node task) none).attempt deadline w t =
      .done (.ok w.next.read) (w.after (client.sent .get (taskPath node task) none)) t := rfl
  rw [waitFrom]
  change Steps.bind _ _ deadline w t = _
  rw [Steps.bind, hquestion]
  dsimp only
  cases taskEnd? task w.next.read with
  | some result => cases result <;> rfl
  | none =>
    change Steps.bind _ _ deadline _ t = _
    simp only [Steps.bind, Steps.sleep]
    cases Steps.inTime deadline (Clock.alarm t client.taskInterval) <;> rfl

/-- A question that leaves the end of the task open is asked again. -/
theorem waitFrom_of_pending {node task : String} {w : Wire} (h : Pending w.next.read) (questions t : Nat) :
    client.waitFrom node task (questions + 1) none w t = client.waitFrom node task questions none
      (w.after (client.sent .get (taskPath node task) none)) (Clock.alarm t client.taskInterval) := by
  rw [waitFrom_eq, taskEnd?_of_pending h]
  exact if_pos rfl

theorem pending_unconnected : Pending Reply.unconnected.read := .passing rfl

/-- Where there is no connection for good, a task is waited for in vain. -/
theorem exists_cut_waitFrom (node task : String) (questions : Nat) {w : Wire} (hw : w.reachable = false)
    (hreplies : w.replies = []) (t : Nat) : ∃ v, client.waitFrom node task questions none w t = .cut v := by
  induction questions generalizing w t with
  | zero => exact ⟨w, rfl⟩
  | succ questions ih =>
    have hnext : w.next = .unconnected := by simp [Wire.next, hw, hreplies]
    rw [waitFrom_of_pending client (hnext ▸ pending_unconnected)]
    have hrest : w.replies.tail = [] := by rw [hreplies, List.tail_nil]
    exact ih (w := w.after _) hw hrest _

/-- A wait for a task ends, unless nothing decides it before there is no connection for good. -/
theorem ends_waitFrom (node task : String) {questions : Nat} {w : Wire} (hreplies : w.replies.length < questions)
    (t : Nat) :
    (∃ result v u, client.waitFrom node task questions none w t = .done result v u) ∨
      (∃ v, client.waitFrom node task questions none w t = .cut v) ∧ w.reachable = false ∧
        ∀ n, Pending (w.outcome n) := by
  -- Each question takes a reply off the wire, and the refusal after the last reply decides.
  induction questions generalizing w t with
  | zero => omega
  | succ questions ih =>
    by_cases hpending : Pending w.next.read
    · cases hrest : w.replies with
      | nil =>
        have hnext : w.next = if w.reachable then .refusal else .unconnected := by rw [Wire.next, hrest]; rfl
        cases hw : w.reachable with
        | true =>
          rw [hnext, hw] at hpending
          have hopen : taskEnd? task Reply.refusal.read = none := taskEnd?_of_pending hpending
          cases hopen
        | false =>
          refine .inr ⟨client.exists_cut_waitFrom node task _ hw hrest t, rfl, fun n => ?_⟩
          rw [w.outcome_of_le (by simp [hrest]), hw]
          exact pending_unconnected
      | cons reply replies =>
        have hlength : (w.after (client.sent .get (taskPath node task) none)).replies.length < questions := by
          change w.replies.tail.length < questions
          rw [hrest, List.length_cons] at hreplies
          rw [hrest]
          exact Nat.lt_of_succ_lt_succ hreplies
        rw [waitFrom_of_pending client hpending]
        rcases ih hlength _ with hdone | ⟨hcut, hw, hlater⟩
        · exact .inl hdone
        refine .inr ⟨hcut, hw, fun n => ?_⟩
        cases n with
        | zero => rwa [w.outcome_zero]
        | succ n => rw [← w.outcome_after]; exact hlater n
    · have hdecided : taskEnd? task w.next.read ≠ none := fun hopen => hpending (taskEnd?_eq_none_iff.1 hopen)
      obtain ⟨result, hresult⟩ := Option.ne_none_iff_exists'.1 hdecided
      exact .inl ⟨result, _, t, by rw [waitFrom_eq, hresult]⟩

/-- A change for which nobody stops waiting is answered, unless its task is asked about where there is no
connection for good. -/
theorem ends_mutate (method : Method) (node path : String) (form : Form) (w : Wire) (t : Nat) :
    (∃ result v u, client.mutate method node path form none w t = .done result v u) ∨
      (∃ v, client.mutate method node path form none w t = .cut v) ∧ w.reachable = false ∧
        ∃ data task, w.outcome 0 = .ok data ∧ startedTask? data = some task ∧
          ∀ n, Pending (w.outcome (n + 1)) := by
  rw [w.outcome_zero]
  change (∃ result v u, Steps.bind _ _ none w t = .done result v u) ∨
    (∃ v, Steps.bind _ _ none w t = .cut v) ∧ _
  rw [Steps.bind, request, exchange]
  cases hfirst : w.next.read with
  | error e => exact .inl ⟨_, _, _, rfl⟩
  | ok data =>
    dsimp only
    cases htask : startedTask? data with
    | none => exact .inl ⟨_, _, _, rfl⟩
    | some task =>
      rcases client.ends_waitFrom node task (Nat.lt_succ_self _) t with hdone | ⟨hcut, hw, hpending⟩
      · exact .inl hdone
      · exact .inr ⟨hcut, hw, data, task, rfl, htask, fun n => w.outcome_after _ n ▸ hpending n⟩

/-- How a change ends, whatever comes over the wire. Whenever it is answered, it is answered well exactly if the
first answer is a success that names no task, or else, after answers that leave the end of the task open, one
says that it has stopped well. A task is asked about until the first answer that decides, and that answer is what
the change comes to; only the questions for which there is a connection arrive. A change is always answered unless
somebody stops waiting, or its task is asked about where there is no connection for good. A question that there is
no connection for leaves the end of a task open, and of the error answers those with status 400 and those from 500
on do, except for a status 500 that says that something does not exist. -/
theorem mutate_ok_iff (method : Method) (node path : String) (form : Form) :
    (∀ deadline w t result v u, client.mutate method node path form deadline w t = .done result v u →
      (result = .ok () ↔ ∃ data, w.outcome 0 = .ok data ∧ (startedTask? data = none ∨
        ∃ n exit, (∀ i < n, Pending (w.outcome (i + 1))) ∧ Stopped (w.outcome (n + 1)) exit ∧ EndsWell exit)) ∧
      ∀ data task, w.outcome 0 = .ok data → startedTask? data = some task →
        ∃ n, Awaited w task n result ∧
          v.sent = List.replicate (w.arrivals (n + 1)) (client.sent .get (taskPath node task) none) ++
            client.sent method path (some form) :: w.sent) ∧
    (∀ w t, (∃ result v u, client.mutate method node path form none w t = .done result v u) ∨
      (∃ v, client.mutate method node path form none w t = .cut v) ∧ w.reachable = false ∧
        ∃ data task, w.outcome 0 = .ok data ∧ startedTask? data = some task ∧
          ∀ n, Pending (w.outcome (n + 1))) ∧
    Pending Reply.unconnected.read ∧
    ∀ code body, isSuccess code = false → (Pending (Reply.answer code body).read ↔
      code = 400 ∨ 500 ≤ code ∧ ¬(code = 500 ∧ Text.contains (errorText body) "does not exist" = true)) := by
  refine ⟨fun deadline w t result v u hrun => ?_, client.ends_mutate method node path form, pending_unconnected,
    fun code body => pending_read_iff body⟩
  have hanswered := client.answered_of_mutate hrun
  cases hanswered with
  | refused houtcome => simp [houtcome]
  | done houtcome hnone =>
    refine ⟨iff_of_true rfl ⟨_, houtcome, .inl hnone⟩, fun data task hdata htask => ?_⟩
    rw [← Except.ok.inj (houtcome.symm.trans hdata), hnone] at htask
    cases htask
  | @task data task n _ houtcome htask hwait hsent =>
    refine ⟨?_, fun other otherTask hother hotherTask => ?_⟩
    · rw [hwait.eq_ok_iff]
      constructor
      · exact fun hwell => ⟨data, houtcome, .inr hwell⟩
      · rintro ⟨other, hother, hnone | hwell⟩
        · rw [← Except.ok.inj (houtcome.symm.trans hother), htask] at hnone
          cases hnone
        · exact hwell
    · obtain rfl := Except.ok.inj (hother.symm.trans houtcome)
      obtain rfl := Option.some.inj (hotherTask.symm.trans htask)
      exact ⟨n, hwait, hsent⟩

/-- A client with the usual backoff. -/
def usualClient : Client :=
  ⟨"http://pve1:8006/api2/json", "PVEAPIToken=root@pam!steward=secret", {}, .seconds 1⟩

/-- A task that is not known at first, then runs, then cannot be asked about, once because there is no connection,
and has warnings in the end. -/
def toilsomeTask : Wire := ⟨true,
  [.answer 200 "\x7b\"data\":\"UPID:1\"\x7d", .answer 400 "no such task",
    .answer 200 "\x7b\"data\":\x7b\"status\":\"running\"\x7d\x7d", .unconnected, .answer 503 "busy",
    .answer 200 "\x7b\"data\":\x7b\"status\":\"stopped\",\"exitstatus\":\"WARNINGS: 1\"\x7d\x7d"], []⟩

theorem mutate_ok_iff_toilsomeTask :
    (∃ v u, usualClient.mutate .post "pve1" "/start" [] none toilsomeTask 0 = .done (.ok ()) v u ∧
      v.sent.length = 5) ∧
    ∃ n exit, (∀ i < n, Pending (toilsomeTask.outcome (i + 1))) ∧ Stopped (toilsomeTask.outcome (n + 1)) exit ∧
      EndsWell exit := by
  have hresult : (usualClient.mutate .post "pve1" "/start" [] none toilsomeTask 0).result? = some (.ok ()) := by
    decide +kernel
  have hsent : (usualClient.mutate .post "pve1" "/start" [] none toilsomeTask 0).state.sent.length = 5 := by
    decide +kernel
  have htask : (toilsomeTask.outcome 0).toOption.bind startedTask? = some "UPID:1" := by decide +kernel
  obtain ⟨v, u, hrun⟩ := Ending.exists_done_of_result? hresult
  rw [hrun] at hsent
  refine ⟨⟨v, u, hrun, hsent⟩, ?_⟩
  obtain ⟨data, hdata, hnone | hwell⟩ :=
    ((usualClient.mutate_ok_iff .post "pve1" "/start" []).1 none toilsomeTask 0 _ v u hrun).1.1 rfl
  · rw [hdata] at htask
    exact absurd (hnone.symm.trans htask) (by simp)
  · exact hwell

end Client

end Rest

end Steward
