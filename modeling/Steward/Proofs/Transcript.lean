/-
What is said between a run and its hypervisor. A hypervisor can keep a transcript of all calls with their
answers, and no run notices: it ends with the same result at the same moment, having made the same calls.
So whatever holds of a transcript is a fact about the run.
-/
import Mathlib
import Steward.Reconcile

namespace Steward

/-- A call and what came of it: its answer, or none if nobody waited for it to the end or it panicked. -/
structure Event where
  call : Call
  answer : Option (Except Failure call.Answer)

namespace Event

def isOk (e : Event) : Bool :=
  match e.answer with
  | some (.ok _) => true
  | _ => false

def failure? (e : Event) : Option Failure :=
  match e.answer with
  | some (.error why) => some why
  | _ => none

end Event

/-- A hypervisor's state with everything that has been said to it, the earliest first. -/
structure Transcribed (σ : Type) where
  remote : σ
  said : List Event

variable {σ τ ε α β : Type}

/-- The same hypervisor, keeping a transcript. -/
def Hypervisor.transcribed (h : Hypervisor σ) : Hypervisor (Transcribed σ) := fun c s =>
  let x := h c s.remote
  { reaction :=
      match x.reaction with
      | .answered d result after => .answered d result ⟨after, s.said ++ [⟨c, some result⟩]⟩
      | .panicked d after => .panicked d ⟨after, s.said ++ [⟨c, none⟩]⟩
      | .silent => .silent
    abandoned := fun waited => ⟨x.abandoned waited, s.said ++ [⟨c, none⟩]⟩ }

namespace World

/-- A world whose hypervisor starts a transcript. -/
def transcribing (w : World σ) : World (Transcribed σ) := ⟨⟨w.remote, []⟩, w.log⟩

/-- The world without the transcript. -/
def forget (w : World (Transcribed σ)) : World σ := ⟨w.remote.remote, w.log⟩

def said (w : World (Transcribed σ)) : List Event := w.remote.said

@[simp] theorem said_transcribing (w : World σ) : w.transcribing.said = [] := rfl

end World

namespace Ending

/-- An ending with its state seen in another way. -/
def mapState (f : σ → τ) : Ending σ ε α → Ending τ ε α
  | .done result s t => .done result (f s) t
  | .panicked s t => .panicked (f s) t
  | .cut s => .cut (f s)

/-- What steps end with; none if they panic or are cut off. -/
def result? : Ending σ ε α → Option (Except ε α)
  | .done result _ _ => some result
  | .panicked _ _ | .cut _ => none

@[simp] theorem state_mapState (f : σ → τ) (ending : Ending σ ε α) :
    (ending.mapState f).state = f ending.state := by
  cases ending <;> rfl

@[simp] theorem result?_mapState (f : σ → τ) (ending : Ending σ ε α) :
    (ending.mapState f).result? = ending.result? := by
  cases ending <;> rfl

theorem exists_done_of_result? {ending : Ending σ ε α} {result : Except ε α} (h : ending.result? = some result) :
    ∃ s t, ending = .done result s t := by
  cases ending with
  | done other s t => exact ⟨s, t, by rw [Option.some.inj h]⟩
  | panicked s t | cut s => cases h

end Ending

namespace Steps

/-- Steps over a transcribing hypervisor that are those over the hypervisor itself when the transcript is
forgotten. -/
def Transcribes (noted : Steps (World (Transcribed σ)) ε α) (p : Steps (World σ) ε α) : Prop :=
  ∀ deadline w t, (noted deadline w t).mapState World.forget = p deadline w.forget t

/-- What is said in a run of steps. -/
def transcript (noted : Steps (World (Transcribed σ)) ε α) (w : World σ) (t : Nat) : List Event :=
  (noted none w.transcribing t).state.said

namespace Transcribes

theorem pure (a : α) : Transcribes (Pure.pure a) (Pure.pure a : Steps (World σ) ε α) := fun _ _ _ => rfl

theorem throw (e : ε) : Transcribes (Steps.throw e) (Steps.throw e : Steps (World σ) ε α) := fun _ _ _ => rfl

theorem panic : Transcribes Steps.panic (Steps.panic : Steps (World σ) ε α) := fun _ _ _ => rfl

theorem now : Transcribes Steps.now (Steps.now : Steps (World σ) ε Nat) := fun _ _ _ => rfl

theorem ofExcept (x : Except ε α) :
    Transcribes (Steps.ofExcept x) (Steps.ofExcept x : Steps (World σ) ε α) := by
  cases x with
  | ok a => exact pure a
  | error e => exact throw e

theorem sleep (d : Duration) : Transcribes (Steps.sleep d) (Steps.sleep d : Steps (World σ) ε Unit) := by
  intro deadline w t
  simp only [Steps.sleep]
  split <;> rfl

theorem bind {noted : Steps (World (Transcribed σ)) ε α} {p : Steps (World σ) ε α}
    {next' : α → Steps (World (Transcribed σ)) ε β} {next : α → Steps (World σ) ε β}
    (hp : Transcribes noted p) (hnext : ∀ a, Transcribes (next' a) (next a)) :
    Transcribes (noted >>= next') (p >>= next) := by
  intro deadline w t
  change (Steps.bind noted next' deadline w t).mapState World.forget = Steps.bind p next deadline w.forget t
  rw [Steps.bind, Steps.bind, ← hp deadline w t]
  cases noted deadline w t with
  | panicked v u | cut v => rfl
  | done result v u =>
    cases result with
    | error e => rfl
    | ok a => exact hnext a deadline v u

theorem attempt {noted : Steps (World (Transcribed σ)) ε α} {p : Steps (World σ) ε α}
    (hp : Transcribes noted p) : Transcribes noted.attempt p.attempt := by
  intro deadline w t
  rw [Steps.attempt, Steps.attempt, ← hp deadline w t]
  cases noted deadline w t <;> rfl

theorem within {noted : Steps (World (Transcribed σ)) ε α} {p : Steps (World σ) ε α} (timeout : Duration)
    (e : ε) (hp : Transcribes noted p) : Transcribes (noted.within timeout e) (p.within timeout e) := by
  intro deadline w t
  simp only [Steps.within]
  split
  · rw [← hp (some (Clock.alarm t timeout)) w t]
    cases noted (some (Clock.alarm t timeout)) w t <;> rfl
  · exact hp deadline w t

/-- A run and its transcribed one end alike. -/
theorem run {noted : Steps (World (Transcribed σ)) ε α} {p : Steps (World σ) ε α} (h : Transcribes noted p)
    (w : World σ) (t : Nat) : (noted none w.transcribing t).mapState World.forget = p none w t :=
  h none w.transcribing t

end Transcribes

end Steps

/-! ## Every run can be transcribed -/

section Runs

open Steps

namespace Hypervisor

variable (h : Hypervisor σ)

theorem transcribes_call (c : Call) : Transcribes (h.transcribed.call c) (h.call c) := by
  intro deadline w t
  simp only [call, transcribed, World.forget]
  cases (h c w.remote.remote).reaction with
  | silent => rfl
  | answered d result after | panicked d after =>
    dsimp only
    split <;> rfl

theorem transcribes_callWithin (what : String) (timeout : Duration) (c : Call) :
    Transcribes (h.transcribed.callWithin what timeout c) (h.callWithin what timeout c) :=
  (h.transcribes_call c).within timeout _

theorem transcribes_hasReached (id : Identity) (goal : Goal) :
    Transcribes (h.transcribed.hasReached id goal) (h.hasReached id goal) := by
  refine (h.transcribes_call _).attempt.bind fun answer => ?_
  cases answer with
  | ok status => exact .pure _
  | error failure =>
    dsimp only
    split
    · exact .pure _
    · exact .throw _

theorem transcribes_pollUntil (id : Identity) (goal : Goal) (polling : Polling) (deadline reads : Nat) :
    Transcribes (h.transcribed.pollUntil id goal polling deadline reads)
      (h.pollUntil id goal polling deadline reads) := by
  induction reads with
  | zero => exact .throw _
  | succ reads ih =>
    refine (h.transcribes_hasReached id goal).bind fun reached => ?_
    split
    · exact .pure _
    · refine Transcribes.now.bind fun now => ?_
      split
      · exact .throw _
      · exact (Transcribes.sleep _).bind fun _ => ih

theorem transcribes_waitFor (id : Identity) (goal : Goal) (polling : Polling) :
    Transcribes (h.transcribed.waitFor id goal polling) (h.waitFor id goal polling) := by
  refine Transcribes.now.bind fun now => ?_
  cases Clock.after? now polling.timeout with
  | some deadline => exact h.transcribes_pollUntil id goal polling deadline _
  | none => exact .panic

theorem transcribes_settle (id : Identity) (interval timeout : Duration) (action : PowerAction) :
    Transcribes (h.transcribed.settle id interval timeout action) (h.settle id interval timeout action) :=
  Transcribes.now.bind fun _ => (h.transcribes_callWithin _ _ _).bind fun _ =>
    Transcribes.now.bind fun _ => h.transcribes_waitFor _ _ _

theorem transcribes_power (id : Identity) (interval timeout : Duration) (action : PowerAction)
    (state : PowerState) :
    Transcribes (h.transcribed.power id interval timeout action state)
      (h.power id interval timeout action state) := by
  unfold power
  split
  · refine (h.transcribes_settle id interval timeout action).attempt.bind fun result => ?_
    cases result <;> exact .pure _
  · exact .pure _

end Hypervisor

namespace Reconciler

variable (r : Reconciler σ)

/-- The same reconciler over a hypervisor that keeps a transcript. -/
def transcribed : Reconciler (Transcribed σ) := ⟨r.hypervisor.transcribed, r.timeouts, r.interval⟩

@[simp] theorem timeouts_transcribed : r.transcribed.timeouts = r.timeouts := rfl

theorem transcribes_actPower (id : Identity) (timeout : Duration) (action : PowerAction)
    (state : PowerState) :
    Transcribes (r.transcribed.actPower id timeout action state) (r.actPower id timeout action state) :=
  (r.hypervisor.transcribes_power _ _ _ _ _).bind fun _ => (Transcribes.ofExcept _).bind fun _ => .pure _

theorem transcribes_act (id : Identity) (power : PowerState) (b : Batch) :
    Transcribes (r.transcribed.act id power b) (r.act id power b) := by
  unfold act
  cases b.first.op with
  | update | delete | moveDisk | resizeDisk | migrate =>
    exact (r.hypervisor.transcribes_callWithin _ _ _).bind fun _ => .pure _
  | start | shutdown | stop | reboot => exact r.transcribes_actPower _ _ _ _

theorem transcribes_step (p : Progress) (b : Batch) : Transcribes (r.transcribed.step p b) (r.step p b) := by
  unfold step
  cases p.skipReason? b.first with
  | some why => exact .pure _
  | none =>
    refine (r.transcribes_act _ _ _).attempt.bind fun result => ?_
    cases result <;> exact .pure _

theorem transcribes_runBatches (p : Progress) (bs : List Batch) :
    Transcribes (r.transcribed.runBatches p bs) (r.runBatches p bs) := by
  induction bs generalizing p with
  | nil => exact .pure _
  | cons b rest ih => exact (r.transcribes_step p b).bind ih

theorem transcribes_execute (id : Identity) (plan : Plan) (status : Status) :
    Transcribes (r.transcribed.execute id plan status) (r.execute id plan status) :=
  r.transcribes_runBatches _ _

theorem transcribes_read (id : Identity) : Transcribes (r.transcribed.read id) (r.read id) :=
  (r.hypervisor.transcribes_call _).bind fun _ => (r.hypervisor.transcribes_call _).bind fun _ =>
    .ofExcept _

theorem transcribes_read? (id : Identity) : Transcribes (r.transcribed.read? id) (r.read? id) := by
  refine (r.transcribes_read id).attempt.bind fun result => ?_
  cases result with
  | ok observed => exact .pure _
  | error failure =>
    dsimp only
    split
    · exact .pure _
    · exact .throw _

variable (desired : Desired) (id : Identity) (copied : Bool)

theorem transcribes_plan : Transcribes (r.transcribed.plan desired id copied) (r.plan desired id copied) :=
  (r.transcribes_read? id).bind fun _ => .pure _

theorem transcribes_confirm :
    Transcribes (r.transcribed.confirm desired id copied) (r.confirm desired id copied) := by
  refine (r.transcribes_plan desired id copied).attempt.bind fun result => ?_
  rcases result with failure | (_ | ⟨_, outcome⟩) <;> exact .pure _

theorem transcribes_carryOut (observed : Observed) (outcome : PlanOutcome) :
    Transcribes (r.transcribed.carryOut desired observed copied outcome)
      (r.carryOut desired observed copied outcome) := by
  refine Transcribes.now.bind fun _ => (r.transcribes_execute _ _ _).bind fun _ =>
    Transcribes.now.bind fun _ => ?_
  dsimp only
  split
  · exact (r.transcribes_confirm desired _ copied).bind fun _ => .pure _
  · exact (Transcribes.pure _).bind fun _ => .pure _

theorem transcribes_pass : Transcribes (r.transcribed.pass desired id copied) (r.pass desired id copied) := by
  refine (r.transcribes_plan desired id copied).bind fun planned => ?_
  rcases planned with _ | ⟨observed, outcome⟩
  · exact .pure _
  · dsimp only
    split
    · exact r.transcribes_carryOut desired copied observed outcome
    · exact .pure _

theorem transcribes_reconcile : Transcribes (r.transcribed.reconcile desired id) (r.reconcile desired id) :=
  r.transcribes_pass desired id _

theorem transcribes_copy (request : CloneRequest) (attempts : UInt32) :
    Transcribes (r.transcribed.copy id request attempts) (r.copy id request attempts) :=
  (r.hypervisor.transcribes_callWithin _ _ _).bind fun _ =>
    (r.hypervisor.transcribes_waitFor _ _ _).bind fun _ => .pure _

theorem transcribes_provision : Transcribes (r.transcribed.provision desired) (r.provision desired) := by
  unfold provision
  split
  · exact r.transcribes_copy _ _ _
  · exact (Transcribes.ofExcept _).bind fun _ => (r.hypervisor.transcribes_callWithin _ _ _).bind fun _ =>
      .pure _

theorem transcribes_create : Transcribes (r.transcribed.create desired) (r.create desired) :=
  (r.transcribes_provision desired).bind fun _ => (r.transcribes_pass desired _ _).bind fun _ => .pure _

theorem transcribes_declared? : Transcribes (r.transcribed.declared? desired) (r.declared? desired) := by
  unfold declared?
  split
  · exact .pure _
  · refine (r.hypervisor.transcribes_call _).attempt.bind fun answer => ?_
    cases answer with
    | ok status => exact .pure _
    | error failure =>
      dsimp only
      split
      · exact .pure _
      · exact .throw _

theorem transcribes_apply : Transcribes (r.transcribed.apply desired) (r.apply desired) := by
  refine (r.transcribes_declared? desired).bind fun declared => ?_
  cases declared with
  | some id => exact r.transcribes_reconcile desired id
  | none => exact r.transcribes_create desired

end Reconciler

end Runs

end Steward
