/-
What runs leave in the hypervisor. Of a run in which no call fails this depends on the calls only, not on
how long they took: waiting ends with the first reading that shows the goal, however many readings there
were before. So a run that went well is a chain of states, one link for each batch (`leaves_runBatches`).
-/
import Mathlib
import Steward.Proofs.Turn

namespace Steward

variable {σ α β : Type}

namespace Steps

/-- Steps from the state `s` of the hypervisor that, whenever they end, have such a result and leave such a
state. -/
def Leaves (p : Steps (World σ) Failure α) (s : σ) (R : Except Failure α → σ → Prop) : Prop :=
  ∀ deadline log t result v u, p deadline ⟨s, log⟩ t = .done result v u → R result v.remote

namespace Leaves

variable {p : Steps (World σ) Failure α} {s : σ} {P R : Except Failure α → σ → Prop}

theorem imp (h : p.Leaves s P) (hPR : ∀ result m, P result m → R result m) : p.Leaves s R :=
  fun deadline log t result v u hrun => hPR _ _ (h deadline log t result v u hrun)

theorem anyhow (p : Steps (World σ) Failure α) (s : σ) : p.Leaves s fun _ _ => True :=
  fun _ _ _ _ _ _ _ => trivial

theorem pure {a : α} (hR : R (.ok a) s) : Leaves (Pure.pure a) s R := by
  intro deadline log t result v u hrun
  cases hrun
  exact hR

theorem throw {why : Failure} (hR : R (.error why) s) : Leaves (Steps.throw why) s R := by
  intro deadline log t result v u hrun
  cases hrun
  exact hR

theorem panic : Leaves (Steps.panic : Steps (World σ) Failure α) s R := by
  intro deadline log t result v u hrun
  cases hrun

theorem ofExcept (x : Except Failure α) : Leaves (Steps.ofExcept x) s fun result m => result = x ∧ m = s := by
  cases x with
  | ok a => exact pure ⟨rfl, rfl⟩
  | error why => exact throw ⟨rfl, rfl⟩

theorem bind {next : α → Steps (World σ) Failure β} {S : Except Failure β → σ → Prop} (h : p.Leaves s P)
    (herror : ∀ why m, P (.error why) m → S (.error why) m)
    (hnext : ∀ a m, P (.ok a) m → (next a).Leaves m S) : (p >>= next).Leaves s S := by
  intro deadline log t result v u hrun
  change Steps.bind p next deadline ⟨s, log⟩ t = .done result v u at hrun
  rw [Steps.bind] at hrun
  cases hp : p deadline ⟨s, log⟩ t with
  | panicked m moment | cut m =>
    rw [hp] at hrun
    cases hrun
  | done first m moment =>
    rw [hp] at hrun
    have hfirst := h _ _ _ _ _ _ hp
    cases first with
    | error why =>
      cases hrun
      exact herror why _ hfirst
    | ok a => exact hnext a _ hfirst _ _ _ _ _ _ hrun

theorem bind_attempt {next : Except Failure α → Steps (World σ) Failure β} {S : Except Failure β → σ → Prop}
    (h : p.Leaves s P) (hnext : ∀ result m, P result m → (next result).Leaves m S) :
    (p.attempt >>= next).Leaves s S := by
  have hattempt : p.attempt.Leaves s fun result m => ∃ last, result = .ok last ∧ P last m := by
    intro deadline log t result v u hrun
    rw [Steps.attempt] at hrun
    cases hp : p deadline ⟨s, log⟩ t with
    | panicked m moment | cut m =>
      rw [hp] at hrun
      cases hrun
    | done last m moment =>
      rw [hp] at hrun
      cases hrun
      exact ⟨last, rfl, h _ _ _ _ _ _ hp⟩
  refine hattempt.bind (fun why m hP => ?_) fun result m hP => ?_
  · obtain ⟨last, hlast, -⟩ := hP
    cases hlast
  · obtain ⟨last, hlast, hP⟩ := hP
    cases hlast
    exact hnext result m hP

/-- Steps that leave the hypervisor alone. -/
theorem bind_idle {next : α → Steps (World σ) Failure β} {S : Except Failure β → σ → Prop}
    (hidle : p.Leaves s fun result m => m = s ∧ ∃ a, result = .ok a) (hnext : ∀ a, (next a).Leaves s S) :
    (p >>= next).Leaves s S := by
  refine hidle.bind (fun why m hm => ?_) fun a m hm => ?_
  · obtain ⟨-, a, ha⟩ := hm
    cases ha
  · obtain rfl := hm.1
    exact hnext a

theorem bind_now {next : Nat → Steps (World σ) Failure β} {S : Except Failure β → σ → Prop}
    (hnext : ∀ moment, (next moment).Leaves s S) : (Steps.now >>= next).Leaves s S := by
  refine bind_idle (fun deadline log t result v u hrun => ?_) hnext
  cases hrun
  exact ⟨rfl, t, rfl⟩

theorem bind_sleep {d : Duration} {next : Unit → Steps (World σ) Failure β}
    {S : Except Failure β → σ → Prop} (hnext : (next ()).Leaves s S) :
    (Steps.sleep d >>= next).Leaves s S := by
  refine bind_idle (fun deadline log t result v u hrun => ?_) fun _ => hnext
  simp only [Steps.sleep] at hrun
  split at hrun <;> cases hrun
  exact ⟨rfl, (), rfl⟩

end Leaves

end Steps

open Steps

/-! ## Calls and waiting -/

namespace Hypervisor

variable (h : Hypervisor σ)

/-- A call that is answered, in one state, and leads to another one. -/
def Answers (c : Call) (s : σ) (a : c.Answer) (m : σ) : Prop := ∃ d, (h c s).reaction = .answered d (.ok a) m

def Refuses (c : Call) (s m : σ) : Prop := ∃ d why, (h c s).reaction = .answered d (.error why) m

/-- The states between which an instance is waited for: it is read until it shows the goal. -/
inductive Reaches (id : Identity) (goal : Goal) : σ → σ → Prop
  | shown {s m : σ} {status : Status} :
      h.Answers (.status id) s status m → goal.isReached status = true → Reaches id goal s m
  | again {s m n : σ} {status : Status} :
      h.Answers (.status id) s status m → goal.isReached status = false → Reaches id goal m n →
        Reaches id goal s n
  | missed {s m n : σ} : h.Refuses (.status id) s m → Reaches id goal m n → Reaches id goal s n

variable {s : σ}

theorem leaves_call (c : Call) :
    (h.call c).Leaves s fun result m =>
      match result with
      | .ok a => h.Answers c s a m
      | .error _ => h.Refuses c s m := by
  intro deadline log t result v u hrun
  simp only [call] at hrun
  cases hx : (h c s).reaction with
  | silent => simp [hx] at hrun
  | panicked d m =>
    simp only [hx] at hrun
    split at hrun <;> cases hrun
  | answered d answer m =>
    simp only [hx] at hrun
    split at hrun <;> cases hrun
    cases result with
    | ok a => exact ⟨d, hx⟩
    | error why => exact ⟨d, why, hx⟩

/-- Of a call with a deadline nothing is known if it fails: it may have been given up. -/
theorem leaves_callWithin (what : String) (timeout : Duration) (c : Call) :
    (h.callWithin what timeout c).Leaves s fun result m => ∀ a, result = .ok a → h.Answers c s a m := by
  intro deadline log t result v u hrun a ha
  subst ha
  simp only [callWithin, within] at hrun
  split at hrun
  · cases hcall : h.call c (some (Clock.alarm t timeout)) ⟨s, log⟩ t with
    | panicked m moment | cut m =>
      rw [hcall] at hrun
      cases hrun
    | done result m moment =>
      rw [hcall] at hrun
      cases hrun
      exact h.leaves_call c _ _ _ _ _ _ hcall
  · exact h.leaves_call c _ _ _ _ _ _ hrun

theorem leaves_hasReached (id : Identity) (goal : Goal) :
    (h.hasReached id goal).Leaves s fun result m =>
      match result with
      | .ok true => ∃ status, h.Answers (.status id) s status m ∧ goal.isReached status = true
      | .ok false => (∃ status, h.Answers (.status id) s status m ∧ goal.isReached status = false) ∨
          h.Refuses (.status id) s m
      | .error _ => True := by
  refine (h.leaves_call (.status id)).bind_attempt fun result m hm => ?_
  cases result with
  | ok status =>
    refine .pure ?_
    cases hgoal : goal.isReached status with
    | true => exact ⟨status, hm, hgoal⟩
    | false => exact .inl ⟨status, hm, hgoal⟩
  | error why =>
    dsimp only
    split
    · exact .pure (.inr hm)
    · exact .throw trivial

theorem leaves_pollUntil (id : Identity) (goal : Goal) (polling : Polling) (deadline reads : Nat) :
    (h.pollUntil id goal polling deadline reads).Leaves s fun result m =>
      ∀ a, result = .ok a → h.Reaches id goal s m := by
  induction reads generalizing s with
  | zero => exact .throw (by simp)
  | succ reads ih =>
    refine (h.leaves_hasReached id goal).bind (by simp) fun reached m hm => ?_
    cases reached with
    | true =>
      obtain ⟨status, hstatus, hgoal⟩ := hm
      exact .pure fun _ _ => .shown hstatus hgoal
    | false =>
      refine .bind_now fun moment => ?_
      split
      · exact .throw (by simp)
      · refine .bind_sleep (ih.imp fun result n hn a ha => ?_)
        rcases hm with ⟨status, hstatus, hgoal⟩ | hrefused
        · exact .again hstatus hgoal (hn a ha)
        · exact .missed hrefused (hn a ha)

theorem leaves_waitFor (id : Identity) (goal : Goal) (polling : Polling) :
    (h.waitFor id goal polling).Leaves s fun result m => ∀ a, result = .ok a → h.Reaches id goal s m := by
  refine .bind_now fun now => ?_
  cases Clock.after? now polling.timeout with
  | some deadline => exact h.leaves_pollUntil id goal polling deadline _
  | none => exact .panic

/-- The states that a call leads to, with the wait for what it leads to if there is any. -/
def Carries (id : Identity) (c : Call) (target : Option RunState) (s n : σ) : Prop :=
  ∃ a m, h.Answers c s a m ∧
    match target with
    | none => n = m
    | some state => h.Reaches id (.state state) m n

theorem leaves_settle (id : Identity) (interval timeout : Duration) (action : PowerAction) :
    (h.settle id interval timeout action).Leaves s fun result n =>
      ∀ a, result = .ok a → h.Carries id (action.call id timeout) (some action.target) s n := by
  refine .bind_now fun started => (h.leaves_callWithin _ _ _).bind (by simp) fun a m hm => ?_
  exact .bind_now fun moment => (h.leaves_waitFor _ _ _).imp fun result n hn b hb => ⟨a, m, hm a rfl, hn b hb⟩

/-- An action that went well, and the state of the instance after it. -/
theorem leaves_power (id : Identity) (interval timeout : Duration) (action : PowerAction)
    (state : PowerState) :
    (h.power id interval timeout action state).Leaves s fun result n =>
      ∀ done after, result = .ok (.ok done, after) →
        if action.isNeeded state then
          after = action.reached ∧ h.Carries id (action.call id timeout) (some action.target) s n
        else after = state ∧ n = s := by
  unfold power
  split
  · refine (h.leaves_settle id interval timeout action).bind_attempt fun result n hn => ?_
    cases result with
    | ok a =>
      refine .pure fun done after hdone => ?_
      cases hdone
      exact ⟨rfl, hn a rfl⟩
    | error why => exact .pure fun done after hdone => by cases hdone
  · refine .pure fun done after hdone => ?_
    cases hdone
    exact ⟨rfl, rfl⟩

/-- The states that a batch leads to if it succeeds, on an instance that lives there and is in that power
state. -/
def Leads (timeouts : Timeouts) (b : Batch) (id : Identity) (power : PowerState) (s n : σ) : Prop :=
  match b.carrier? timeouts id power with
  | none => n = s
  | some c => h.Carries id c b.first.op.target? s n

/-- The states that batches lead to one after the other if all succeed. -/
def Completes (timeouts : Timeouts) : List Batch → Identity → PowerState → σ → σ → Prop
  | [], _, _, s, n => n = s
  | b :: rest, id, power, s, n =>
    ∃ m, h.Leads timeouts b id power s m ∧
      Completes timeouts rest (b.first.op.identityAfter id) (b.first.op.powerAfter power) m n

end Hypervisor

/-! ## Runs -/

/-- Nothing has failed so far. -/
structure Progress.Unharmed (p : Progress) : Prop where
  failures : p.failures = []
  windowFailed : p.windowFailed = false
  configFailed : p.configFailed = false
  aborted : p.aborted = none

namespace Progress.Unharmed

theorem initial (id : Identity) (status : Status) : (Progress.initial id status).Unharmed := ⟨rfl, rfl, rfl, rfl⟩

variable {p : Progress}

theorem skipReason? (hp : p.Unharmed) (i : Intent) : p.skipReason? i = none := by
  rw [Progress.skipReason?, hp.aborted]
  cases hd : i.dependency <;> simp [isBlocked, hp.windowFailed, hp.configFailed]

theorem succeed (hp : p.Unharmed) (b : Batch) (id : Identity) (power : PowerState) :
    (p.succeed b id power).Unharmed := ⟨hp.failures, hp.windowFailed, hp.configFailed, hp.aborted⟩

end Progress.Unharmed

namespace Reconciler

variable (r : Reconciler σ) {s : σ}

theorem leaves_actPower (id : Identity) (timeout : Duration) (action : PowerAction) (state : PowerState) :
    (r.actPower id timeout action state).Leaves s fun result n =>
      ∀ after, result = .ok after →
        if action.isNeeded state then
          after = (id, action.reached) ∧
            r.hypervisor.Carries id (action.call id timeout) (some action.target) s n
        else after = (id, state) ∧ n = s := by
  refine (r.hypervisor.leaves_power id r.interval timeout action state).bind (by simp) fun outcome n hn => ?_
  obtain ⟨result, after⟩ := outcome
  refine (Leaves.ofExcept result).bind (by simp) fun done m hm => ?_
  obtain ⟨rfl, rfl⟩ := hm
  refine .pure fun last hlast => ?_
  cases hlast
  have hafter := hn done after rfl
  by_cases hneeded : action.isNeeded state
  · rw [if_pos hneeded] at hafter ⊢
    exact ⟨by rw [hafter.1], hafter.2⟩
  · rw [if_neg hneeded] at hafter ⊢
    exact ⟨by rw [hafter.1], hafter.2⟩

theorem leaves_act (id : Identity) (power : PowerState) (b : Batch) :
    (r.act id power b).Leaves s fun result n =>
      ∀ after, result = .ok after →
        after = (b.first.op.identityAfter id, b.first.op.powerAfter power) ∧
          r.hypervisor.Leads r.timeouts b id power s n := by
  obtain ⟨⟨op, reason, dependency⟩, others⟩ := b
  cases op with
  | update | delete | moveDisk | resizeDisk | migrate =>
    refine (r.hypervisor.leaves_callWithin _ _ _).bind (by simp) fun a m hm => .pure fun after hafter => ?_
    cases hafter
    exact ⟨rfl, a, m, hm a rfl, rfl⟩
  | start | shutdown | stop | reboot =>
    refine (r.leaves_actPower _ _ _ _).imp fun result n hn after hafter => ?_
    have hstate := hn after hafter
    cases power <;> exact hstate

/-- What has failed stays failed. -/
theorem leaves_failures (p : Progress) (bs : List Batch) :
    (r.runBatches p bs).Leaves s fun result _ => ∀ done, result = .ok done → p.failures <+: done.failures := by
  induction bs generalizing p s with
  | nil =>
    refine .pure fun done hdone => ?_
    cases hdone
    exact List.prefix_rfl
  | cons b rest ih =>
    have hstep : (r.step p b).Leaves s fun result _ =>
        ∀ q, result = .ok q → p.failures <+: q.failures := by
      unfold step
      split
      · refine .pure fun q hq => ?_
        cases hq
        exact List.prefix_rfl
      · refine (Leaves.anyhow _ _).bind_attempt fun result m _ => ?_
        cases result <;> refine .pure fun q hq => ?_ <;> cases hq
        · exact List.prefix_append _ _
        · exact List.prefix_rfl
    refine hstep.bind (by simp) fun q m hq => ?_
    exact (ih q).imp fun result n hn done hdone => (hq q rfl).trans (hn done hdone)

/-- A run in which nothing fails is a chain of states, whatever the time that it took. -/
theorem leaves_runBatches {p : Progress} (hp : p.Unharmed) (bs : List Batch) :
    (r.runBatches p bs).Leaves s fun result n => ∀ done, result = .ok done → done.failures = [] →
      r.hypervisor.Completes r.timeouts bs p.identity p.power s n := by
  induction bs generalizing p s with
  | nil => exact .pure fun _ _ _ => rfl
  | cons b rest ih =>
    -- After a batch that failed, the failures of the run are not empty any more.
    have hstep : (r.step p b).Leaves s fun result m => ∀ q, result = .ok q →
        (q.failures ≠ [] ∨ q.Unharmed ∧ q.identity = b.first.op.identityAfter p.identity ∧
          q.power = b.first.op.powerAfter p.power ∧
          r.hypervisor.Leads r.timeouts b p.identity p.power s m) := by
      rw [step, hp.skipReason?]
      refine (r.leaves_act p.identity p.power b).bind_attempt fun result m hm => ?_
      cases result with
      | ok after =>
        obtain ⟨rfl, hlead⟩ := hm after rfl
        refine .pure fun q hq => ?_
        cases hq
        exact .inr ⟨hp.succeed _ _ _, rfl, rfl, hlead⟩
      | error why =>
        refine .pure fun q hq => ?_
        cases hq
        exact .inl (by simp [Progress.fail])
    refine hstep.bind (by simp) fun q m hq => ?_
    rcases hq q rfl with hfailed | ⟨hunharmed, hid, hpower, hlead⟩
    · refine (r.leaves_failures q rest).imp fun result n hn done hdone hnone => ?_
      exact absurd (List.prefix_nil.1 (hnone ▸ hn done hdone)) hfailed
    · refine (ih hunharmed).imp fun result n hn done hdone hnone => ?_
      rw [hid, hpower] at hn
      exact ⟨m, hlead, hn done hdone hnone⟩

end Reconciler

end Steward
