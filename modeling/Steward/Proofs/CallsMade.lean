/-
Which calls the parts of a run make. A bound on them holds of every run, of one that is cut off as well: it
has nothing to do with how the calls are answered, only with what a plan asks for.
-/
import Mathlib
import Steward.Proofs.Turn

namespace Steward

variable {σ ε α β : Type} {K : Call → Prop}

namespace Steps

/-- Steps all calls of which satisfy `K`, whether they end, panic or are cut off. -/
def Makes (K : Call → Prop) (p : Steps (World σ) ε α) : Prop :=
  ∀ deadline w t, ∃ calls, (p deadline w t).state.log = calls ++ w.log ∧ ∀ c ∈ calls, K c

namespace Makes

variable {p : Steps (World σ) ε α}

/-- Steps that leave the log alone. -/
theorem nothing (h : ∀ deadline w t, (p deadline w t).state.log = w.log) : Makes K p :=
  fun deadline w t => ⟨[], h deadline w t, by simp⟩

theorem pure (a : α) : Makes K (Pure.pure a : Steps (World σ) ε α) := nothing fun _ _ _ => rfl

theorem throw (e : ε) : Makes K (Steps.throw e : Steps (World σ) ε α) := nothing fun _ _ _ => rfl

theorem panic : Makes K (Steps.panic : Steps (World σ) ε α) := nothing fun _ _ _ => rfl

theorem now : Makes K (Steps.now : Steps (World σ) ε Nat) := nothing fun _ _ _ => rfl

theorem sleep (d : Duration) : Makes K (Steps.sleep d : Steps (World σ) ε Unit) := by
  refine nothing fun deadline w t => ?_
  simp only [Steps.sleep]
  split <;> rfl

theorem ofExcept (x : Except ε α) : Makes K (Steps.ofExcept x : Steps (World σ) ε α) := by
  cases x with
  | ok a => exact pure a
  | error e => exact throw e

theorem bind {next : α → Steps (World σ) ε β} (hp : Makes K p) (hnext : ∀ a, Makes K (next a)) :
    Makes K (p >>= next) := by
  intro deadline w t
  obtain ⟨calls, hlog, hcalls⟩ := hp deadline w t
  change ∃ calls, (Steps.bind p next deadline w t).state.log = calls ++ w.log ∧ ∀ c ∈ calls, K c
  rw [Steps.bind]
  generalize p deadline w t = ending at hlog ⊢
  cases ending with
  | panicked v u | cut v => exact ⟨calls, hlog, hcalls⟩
  | done result v u =>
    cases result with
    | error e => exact ⟨calls, hlog, hcalls⟩
    | ok a =>
      obtain ⟨more, hmore, hK⟩ := hnext a deadline v u
      refine ⟨more ++ calls, ?_, List.forall_mem_append.2 ⟨hK, hcalls⟩⟩
      rw [hmore, show v.log = calls ++ w.log from hlog, List.append_assoc]

theorem attempt (hp : Makes K p) : Makes K p.attempt := by
  intro deadline w t
  have h := hp deadline w t
  rw [Steps.attempt]
  generalize p deadline w t = ending at h ⊢
  cases ending <;> exact h

theorem within (timeout : Duration) (e : ε) (hp : Makes K p) : Makes K (p.within timeout e) := by
  intro deadline w t
  simp only [Steps.within]
  split
  · have h := hp (some (Clock.alarm t timeout)) w t
    generalize p (some (Clock.alarm t timeout)) w t = ending at h ⊢
    cases ending <;> exact h
  · exact hp deadline w t

end Makes

/-- What steps say, and which calls they make. -/
theorem Tracks.makes {noted : Steps (World (Transcribed σ)) Failure α} {waits : List Duration}
    {Q : Option (Except Failure α) → List Event → Prop} (h : noted.Tracks waits Q) (hmakes : noted.Makes K) :
    noted.Tracks waits fun result? said => Q result? said ∧ ∀ e ∈ said, K e.call := by
  intro w t
  obtain ⟨said, hsaid, hQ, hstops⟩ := h w t
  obtain ⟨calls, hlog, hcalls⟩ := hmakes none w t
  refine ⟨said, hsaid, ⟨hQ, fun e he => hcalls _ ?_⟩, hstops⟩
  rw [hsaid.2] at hlog
  exact List.append_cancel_right hlog ▸ List.mem_reverse.2 (List.mem_map_of_mem he)

end Steps

open Steps

namespace Hypervisor

variable (h : Hypervisor σ)

theorem makes_call {c : Call} (hc : K c) : Makes K (h.call c) := by
  refine fun deadline w t => ⟨[c], ?_, by simpa using hc⟩
  simp only [call]
  cases (h c w.remote).reaction with
  | silent => rfl
  | answered d result after | panicked d after =>
    dsimp only
    split <;> rfl

theorem makes_callWithin (what : String) (timeout : Duration) {c : Call} (hc : K c) :
    Makes K (h.callWithin what timeout c) := (h.makes_call hc).within timeout _

theorem makes_hasReached {id : Identity} (goal : Goal) (hs : K (.status id)) :
    Makes K (h.hasReached id goal) := by
  refine (h.makes_call hs).attempt.bind fun answer => ?_
  cases answer with
  | ok status => exact .pure _
  | error failure =>
    dsimp only
    split
    · exact .pure _
    · exact .throw _

theorem makes_pollUntil {id : Identity} (goal : Goal) (polling : Polling) (deadline reads : Nat)
    (hs : K (.status id)) : Makes K (h.pollUntil id goal polling deadline reads) := by
  induction reads with
  | zero => exact .throw _
  | succ reads ih =>
    refine (h.makes_hasReached goal hs).bind fun reached => ?_
    split
    · exact .pure _
    · refine Makes.now.bind fun now => ?_
      split
      · exact .throw _
      · exact (Makes.sleep _).bind fun _ => ih

theorem makes_waitFor {id : Identity} (goal : Goal) (polling : Polling) (hs : K (.status id)) :
    Makes K (h.waitFor id goal polling) := by
  refine Makes.now.bind fun now => ?_
  cases Clock.after? now polling.timeout with
  | some deadline => exact h.makes_pollUntil goal polling deadline _ hs
  | none => exact .panic

theorem makes_settle {id : Identity} (interval : Duration) {timeout : Duration} {action : PowerAction}
    (hc : K (action.call id timeout)) (hs : K (.status id)) : Makes K (h.settle id interval timeout action) :=
  Makes.now.bind fun _ => (h.makes_callWithin _ _ hc).bind fun _ =>
    Makes.now.bind fun _ => h.makes_waitFor _ _ hs

theorem makes_power {id : Identity} (interval : Duration) {timeout : Duration} {action : PowerAction}
    {state : PowerState} (hc : action.isNeeded state = true → K (action.call id timeout))
    (hs : K (.status id)) : Makes K (h.power id interval timeout action state) := by
  unfold power
  split
  · rename_i hneeded
    refine (h.makes_settle interval (hc hneeded) hs).attempt.bind fun result => ?_
    cases result <;> exact .pure _
  · exact .pure _

end Hypervisor

namespace Reconciler

variable (r : Reconciler σ)

theorem makes_actPower {id : Identity} {timeout : Duration} {action : PowerAction} {state : PowerState}
    (hc : action.isNeeded state = true → K (action.call id timeout)) (hs : K (.status id)) :
    Makes K (r.actPower id timeout action state) :=
  (r.hypervisor.makes_power r.interval hc hs).bind fun _ => (Makes.ofExcept _).bind fun _ => .pure _

/-- A batch makes the call that carries it, and reads the status. -/
theorem makes_act {id : Identity} {power : PowerState} {b : Batch}
    (hc : ∀ c, b.carrier? r.timeouts id power = some c → K c) (hs : K (.status id)) :
    Makes K (r.act id power b) := by
  obtain ⟨⟨op, reason, dependency⟩, others⟩ := b
  cases op with
  | update | delete | moveDisk | resizeDisk | migrate =>
    exact (r.hypervisor.makes_callWithin _ _ (hc _ rfl)).bind fun _ => .pure _
  | start | shutdown | stop | reboot =>
    refine r.makes_actPower (fun hneeded => hc _ ?_) hs
    cases power <;> first | rfl | cases hneeded

theorem makes_step (p : Progress) {b : Batch}
    (hc : ∀ id power c, b.carrier? r.timeouts id power = some c → K c) (hs : ∀ id, K (.status id)) :
    Makes K (r.step p b) := by
  unfold step
  split
  · exact .pure _
  · refine (r.makes_act (hc _ _) (hs _)).attempt.bind fun result => ?_
    cases result <;> exact .pure _

theorem makes_runBatches (p : Progress) {bs : List Batch}
    (hc : ∀ b ∈ bs, ∀ id power c, b.carrier? r.timeouts id power = some c → K c)
    (hs : ∀ id, K (.status id)) : Makes K (r.runBatches p bs) := by
  induction bs generalizing p with
  | nil => exact .pure _
  | cons b rest ih =>
    rw [List.forall_mem_cons] at hc
    exact (r.makes_step p hc.1 hs).bind fun _ => ih _ hc.2

/-- Carrying out a plan makes the calls that carry its batches, and reads the status. -/
theorem makes_execute (id : Identity) {plan : Plan} (status : Status)
    (hc : ∀ b ∈ batches plan.intents, ∀ id power c, b.carrier? r.timeouts id power = some c → K c)
    (hs : ∀ id, K (.status id)) : Makes K (r.execute id plan status) := r.makes_runBatches _ hc hs

section Passes

variable (hreads : ∀ c : Call, c.isRead = true → K c)

include hreads

theorem makes_read? (id : Identity) : Makes K (r.read? id) := by
  have hread : Makes K (r.read id) := (r.hypervisor.makes_call (hreads _ rfl)).bind fun _ =>
    (r.hypervisor.makes_call (hreads _ rfl)).bind fun _ => .ofExcept _
  refine hread.attempt.bind fun reading => ?_
  cases reading with
  | ok observed => exact .pure _
  | error failure =>
    dsimp only
    split
    · exact .pure _
    · exact .throw _

theorem makes_plan (desired : Desired) (id : Identity) (copied : Bool) : Makes K (r.plan desired id copied) :=
  (r.makes_read? hreads id).bind fun _ => .pure _

theorem makes_confirm (desired : Desired) (id : Identity) (copied : Bool) :
    Makes K (r.confirm desired id copied) := by
  refine (r.makes_plan hreads desired id copied).attempt.bind fun result => ?_
  rcases result with failure | (_ | ⟨_, outcome⟩) <;> exact .pure _

/-- Carrying out the plan of a pass makes the calls that carry its batches, and reads. -/
theorem makes_carryOut (desired : Desired) (observed : Observed) (copied : Bool) (outcome : PlanOutcome)
    (hc : ∀ b ∈ batches outcome.plan.intents, ∀ id power c, b.carrier? r.timeouts id power = some c → K c) :
    Makes K (r.carryOut desired observed copied outcome) := by
  refine Makes.now.bind fun _ => (r.makes_execute _ _ hc fun _ => hreads _ rfl).bind fun done =>
    Makes.now.bind fun _ => ?_
  dsimp only
  split
  · exact (r.makes_confirm hreads desired _ copied).bind fun _ => .pure _
  · exact (Makes.pure _).bind fun _ => .pure _

/-- A pass makes calls that carry batches, and reads. -/
theorem makes_pass (desired : Desired) (id : Identity) (copied : Bool)
    (hc : ∀ (b : Batch) id power c, b.carrier? r.timeouts id power = some c → K c) :
    Makes K (r.pass desired id copied) := by
  refine (r.makes_plan hreads desired id copied).bind fun planned => ?_
  rcases planned with _ | ⟨observed, outcome⟩
  · exact .pure _
  · dsimp only
    split
    · exact r.makes_carryOut hreads desired observed copied outcome fun b _ => hc b
    · exact .pure _

end Passes

end Reconciler

end Steward
