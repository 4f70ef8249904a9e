/-
How an instance comes into being. Whatever the hypervisor answers, one is created or copied at most once, and
only after it was found missing; a copy is let alone until a reading of its status shows that its configuration
is not locked any more; and what fails on the way ends the run before anything else is changed.
-/
import Mathlib
import Steward.Proofs.CallsMade
import Steward.Proofs.Convergence

namespace Steward

variable {σ α β : Type}

namespace Call

/-- Whether a call makes an instance. -/
def isCreation : Call → Bool
  | create .. | clone .. => true
  | _ => false

def isClone : Call → Bool
  | clone .. => true
  | _ => false

theorem isCreation_of_isClone {c : Call} (h : c.isClone = true) : c.isCreation = true := by
  cases c <;> first | rfl | cases h

theorem not_isCreation_of_isRead {c : Call} (h : c.isRead = true) : c.isCreation = false := by
  cases c <;> first | rfl | cases h

end Call

/-- What carries a batch makes no instance. -/
theorem Batch.not_isCreation_of_carrier? {b : Batch} {timeouts : Timeouts} {id : Identity}
    {power : PowerState} {c : Call} (h : b.carrier? timeouts id power = some c) : c.isCreation = false := by
  obtain ⟨⟨op, reason, dependency⟩, others⟩ := b
  cases op <;> cases power <;> cases h <;> rfl

/-- A list is split in one way at an element that stands nowhere else. -/
theorem append_cons_unique {xs ys before later : List α} {a e : α} (h : xs ++ a :: ys = before ++ e :: later)
    (hxs : e ∉ xs) (hother : ¬(a ∈ before ∧ e ∈ ys)) : before = xs ∧ e = a ∧ later = ys := by
  rcases List.append_eq_append_iff.1 h with ⟨between, rfl, hrest⟩ | ⟨between, rfl, hrest⟩
  · rcases List.cons_eq_append_iff.1 hrest with ⟨rfl, hrest⟩ | ⟨between, rfl, rfl⟩
    · obtain ⟨rfl, rfl⟩ := List.cons_eq_cons.1 hrest
      exact ⟨List.append_nil _, rfl, rfl⟩
    · exact absurd ⟨by simp, by simp⟩ hother
  · rcases List.cons_eq_append_iff.1 hrest with ⟨rfl, hrest⟩ | ⟨between, rfl, rfl⟩
    · obtain ⟨rfl, rfl⟩ := List.cons_eq_cons.1 hrest
      exact ⟨(List.append_nil _).symm, rfl, rfl⟩
    · simp at hxs

open Steps

/-! ## Waiting for a copy -/

namespace Hypervisor

/-- What is said in waiting for a goal; the wait may also stop without a result. -/
def Awaited (id : Identity) (goal : Goal) (waited? : Option (Except Failure Unit)) (polls : List Event) : Prop :=
  (∀ e ∈ polls, e.call = .status id) ∧ ∀ waited, waited? = some waited → Waited id goal waited polls

theorem tracks_waitFor (h : Hypervisor σ) {waits : List Duration} (id : Identity) (goal : Goal)
    {polling : Polling} (hwaits : ∃ d ∈ waits, polling.timeout ≤ d) :
    (h.transcribed.waitFor id goal polling).Tracks waits (Awaited id goal) := by
  have hmakes : (h.transcribed.waitFor id goal polling).Makes (· = .status id) :=
    h.transcribed.makes_waitFor goal polling rfl
  exact (Tracks.makes (h.says_waitFor id goal hwaits) hmakes).imp fun waited? polls hsaid =>
    ⟨hsaid.2, fun waited hwaited => (hsaid.1 waited hwaited).waited⟩

end Hypervisor

/-! ## The three stages of a run -/

/-- What is said to find out whether the instance that is declared by its number exists. -/
def Asked (desired : Desired) (found? : Option (Except Failure (Option Identity))) (said : List Event) : Prop :=
  match desired.id with
  | none => said = [] ∧ found? = some (.ok none)
  | some n => ∃ answer? : Option (Except Failure Status),
      said = [⟨.status (desired.identity n), answer?⟩] ∧
        found? = answer?.map fun answer => match answer with
          | .ok _ => .ok (some (desired.identity n))
          | .error why => if why.isNotFound then .ok none else .error why

/-- No instance is declared by its number, or the reading of its status has found none. -/
def Absent (desired : Desired) (asked : List Event) : Prop :=
  desired.id = none ∧ asked = [] ∨
    ∃ n why, desired.id = some n ∧ asked = [⟨.status (desired.identity n), some (.error why)⟩] ∧
      why.isNotFound = true

/-- What is said to make an instance. -/
inductive Made (desired : Desired) : Option (Except Failure Identity) → List Event → Prop
  | impossible {why : Failure} : desired.clone = none → desired.createRequest = .error why →
      Made desired (some (.error why)) []
  | denied {e : Event} {why : Failure} : e.call.isCreation = true → e.isOk = false → e.Fails why →
      (desired.clone = none → ∃ request, desired.createRequest = .ok request) →
      Made desired (some (.error why)) [e]
  | panicked {e : Event} : e.call.isCreation = true → e.answer = none →
      (desired.clone = none → ∃ request, desired.createRequest = .ok request) → Made desired none [e]
  | created {e : Event} {id : Identity} : e.call.isCreation = true → e.call.isClone = false → e.isOk = true →
      (∃ request, desired.createRequest = .ok request) → Made desired (some (.ok id)) [e]
  | copied {source : Identity} {request : CloneRequest} {attempts newId : UInt32}
      {waited? : Option (Except Failure Unit)} {polls : List Event} :
      desired.cloneRequest? = some (source, request) →
      Hypervisor.Awaited { source with id := newId } .unlocked waited? polls →
      Made desired (waited?.map (Except.map fun _ => { source with id := newId }))
        (⟨.clone source request attempts, some (.ok newId)⟩ :: polls)

/-- What is said in a pass over an instance. -/
inductive Visited (desired : Desired) (id : Identity) : Option (Except Failure Report) → List Event → Prop
  | unread {said : List Event} : Unread id said → Visited desired id none said
  | failed {why : Failure} {result : Except Failure Report} {said : List Event} :
      Reads id (.error why) said → (why.isNotFound = false → result = .error why) →
      Visited desired id (some result) said
  | idle {observed : Observed} {report : Report} {said : List Event} :
      Reads id (.ok observed) said →
      (Plan.planPass desired observed desired.clone.isSome).plan.hasChanges = false →
      Visited desired id (some (.ok report)) said
  | changed {observed : Observed} {result? : Option (Except Failure Report)} {first more : List Event} :
      Reads id (.ok observed) first →
      (Plan.planPass desired observed desired.clone.isSome).plan.hasChanges = true →
      (∀ e ∈ more, e.call.isCreation = false) → Visited desired id result? (first ++ more)

namespace Reconciler

variable (r : Reconciler σ) (desired : Desired)

theorem tracks_declared? {waits : List Duration} :
    (r.transcribed.declared? desired).Tracks waits (Asked desired) := by
  unfold declared? Asked
  cases desired.id with
  | none => exact .pure ⟨rfl, rfl⟩
  | some n =>
    refine (r.hypervisor.tracks_call (c := .status (desired.identity n)) rfl).bind_attempt
      (fun said hsaid => ⟨none, hsaid, rfl⟩) fun answer said hsaid => ?_
    subst hsaid
    cases answer with
    | ok status => exact .pure ⟨some (.ok status), rfl, rfl⟩
    | error why =>
      dsimp only
      cases hmissing : why.isNotFound with
      | true => exact .pure ⟨some (.error why), rfl, by simp [hmissing]⟩
      | false => exact .throw ⟨some (.error why), rfl, by simp [hmissing]⟩

theorem tracks_provision : (r.transcribed.provision desired).Tracks r.timeouts.toList (Made desired) := by
  unfold provision
  split
  · rename_i clone source request hclone hrequest
    have hcopy : desired.clone ≠ none := by simp [hclone]
    have hwaits : ∃ d ∈ r.timeouts.toList, r.timeouts.clone ≤ d :=
      ⟨r.timeouts.clone, by simp [Timeouts.toList], le_rfl⟩
    refine (r.hypervisor.tracks_callWithin _ _ (.clone source request clone.retries)).bind (fun said hsaid => ?_)
      (fun why said hsaid => ?_) fun newId said hsaid => ?_
    · subst hsaid
      exact .panicked rfl rfl fun hnone => absurd hnone hcopy
    · obtain ⟨e, rfl, he⟩ := hsaid
      exact .denied (by rw [he.call]; rfl) he.fails.1 he.fails.2 fun hnone => absurd hnone hcopy
    · obtain ⟨e, rfl, he⟩ := hsaid
      obtain rfl : e = ⟨.clone source request clone.retries, some (.ok newId)⟩ := by
        rcases he with he | ⟨-, _, hfalse⟩
        · exact he
        · cases hfalse
      refine (r.hypervisor.tracks_waitFor { source with id := newId } .unlocked hwaits).bind
        (fun polls hpolls => .copied hrequest hpolls) (fun why polls hpolls => .copied hrequest hpolls)
        fun _ polls hpolls => .pure ?_
      rw [List.append_nil]
      exact .copied hrequest hpolls
  · rename_i hother
    have hnone : desired.clone = none := by
      cases hclone : desired.clone with
      | none => rfl
      | some clone => exact absurd (by rw [Desired.cloneRequest?, hclone]; rfl) (hother clone _ _ hclone)
    cases hrequest : desired.createRequest with
    | error why => exact .throw (.impossible hnone hrequest)
    | ok request =>
      refine (r.hypervisor.tracks_callWithin _ _ (.create desired.node request)).bind
        (fun said hsaid => ?_) (fun why said hsaid => ?_) fun newId said hsaid => .pure ?_
      · subst hsaid
        exact .panicked rfl rfl fun _ => ⟨request, hrequest⟩
      · obtain ⟨e, rfl, he⟩ := hsaid
        exact .denied (by rw [he.call]; rfl) he.fails.1 he.fails.2 fun _ => ⟨request, hrequest⟩
      · obtain ⟨e, rfl, he⟩ := hsaid
        exact .created (by rw [he.call]; rfl) (by rw [he.call]; rfl) he.isOk ⟨request, hrequest⟩

theorem tracks_visit (id : Identity) :
    (r.transcribed.pass desired id desired.clone.isSome).Tracks r.timeouts.toList (Visited desired id) := by
  have hmakes : (r.transcribed.pass desired id desired.clone.isSome).Makes fun c => c.isCreation = false :=
    r.transcribed.makes_pass (fun _ => Call.not_isCreation_of_isRead) _ _ _
      fun b _ _ _ => b.not_isCreation_of_carrier?
  refine ((r.tracks_pass desired id _).makes hmakes).imp fun result? said hsaid => ?_
  obtain ⟨⟨rfl, hunread⟩ | ⟨reading, first, more, rfl, hreads, hpassed⟩, hcalls⟩ := hsaid
  · exact .unread hunread
  · cases reading with
    | error why =>
      obtain ⟨rfl, rfl⟩ := hpassed
      rw [List.append_nil]
      exact .failed hreads fun hfailed => by rw [hfailed]; rfl
    | ok observed =>
      rw [Passed] at hpassed
      split at hpassed
      · rename_i hchanges
        exact .changed hreads hchanges (List.forall_mem_append.1 hcalls).2
      · rename_i hidle
        obtain ⟨rfl, rfl⟩ := hpassed
        rw [List.append_nil]
        exact .idle hreads (by simpa using hidle)

/-- A stage that does not succeed ends the run. -/
def Breaks (stage? : Option (Except Failure α)) (result? : Option (Except Failure Report)) : Prop :=
  stage? = none ∧ result? = none ∨ ∃ why, stage? = some (.error why) ∧ result? = some (.error why)

end Reconciler

/-- What is said to bring an instance to its declared state: whether it exists, what makes it if it does not,
and the pass over it. -/
inductive Application (desired : Desired) : Option (Except Failure Report) → List Event → Prop
  | unasked {found? : Option (Except Failure (Option Identity))} {result? : Option (Except Failure Report)}
      {asked : List Event} : Asked desired found? asked → Reconciler.Breaks found? result? →
      Application desired result? asked
  | existing {id : Identity} {result? : Option (Except Failure Report)} {asked passed : List Event} :
      Asked desired (some (.ok (some id))) asked → Visited desired id result? passed →
      Application desired result? (asked ++ passed)
  | unmade {made? : Option (Except Failure Identity)} {result? : Option (Except Failure Report)}
      {asked made : List Event} : Asked desired (some (.ok none)) asked → Made desired made? made →
      Reconciler.Breaks made? result? → Application desired result? (asked ++ made)
  | made {id : Identity} {result? : Option (Except Failure Report)} {asked made passed : List Event} :
      Asked desired (some (.ok none)) asked → Made desired (some (.ok id)) made →
      Visited desired id result? passed → Application desired result? (asked ++ (made ++ passed))

theorem Visited.map {desired : Desired} {id : Identity} {result? : Option (Except Failure Report)}
    {said : List Event} (h : Visited desired id result? said) (f : Report → Report) :
    Visited desired id (result?.map (Except.map f)) said := by
  cases h with
  | unread h => exact .unread h
  | failed hreads hresult =>
    refine .failed hreads fun hfailed => ?_
    rw [hresult hfailed]
    rfl
  | idle hreads hidle => exact .idle hreads hidle
  | changed hreads hchanges hmore => exact .changed hreads hchanges hmore

theorem Reconciler.tracks_apply (r : Reconciler σ) (desired : Desired) :
    (r.transcribed.apply desired).Tracks r.timeouts.toList (Application desired) := by
  refine (r.tracks_declared? desired).bind (fun asked hasked => .unasked hasked (.inl ⟨rfl, rfl⟩))
    (fun why asked hasked => .unasked hasked (.inr ⟨why, rfl, rfl⟩)) fun found asked hasked => ?_
  cases found with
  | some id => exact (r.tracks_visit desired id).imp fun result? passed hpassed => .existing hasked hpassed
  | none =>
    refine (r.tracks_provision desired).bind (fun made hmade => .unmade hasked hmade (.inl ⟨rfl, rfl⟩))
      (fun why made hmade => .unmade hasked hmade (.inr ⟨why, rfl, rfl⟩)) fun id made hmade => ?_
    refine (r.tracks_visit desired id).bind (fun passed hpassed => .made hasked hmade hpassed)
      (fun why passed hpassed => .made hasked hmade hpassed) fun report passed hpassed => .pure ?_
    rw [List.append_nil]
    exact .made hasked hmade (hpassed.map fun report => { report with outcome := .created })

/-! ## What the stages say -/

section Stages

variable {desired : Desired} {id other : Identity} {result? : Option (Except Failure Report)}
  {said first later : List Event}

theorem Asked.absent {asked : List Event} (h : Asked desired (some (.ok none)) asked) :
    Absent desired asked := by
  unfold Asked at h
  cases hid : desired.id with
  | none =>
    rw [hid] at h
    exact .inl ⟨hid, h.1⟩
  | some n =>
    rw [hid] at h
    obtain ⟨answer?, rfl, hanswer⟩ := h
    rcases answer? with _ | why | status
    · cases hanswer
    · refine .inr ⟨n, why, hid, rfl, ?_⟩
      cases hmissing : why.isNotFound with
      | true => rfl
      | false => simp [hmissing] at hanswer
    · cases hanswer

theorem Asked.isRead {found? : Option (Except Failure (Option Identity))} (h : Asked desired found? said) :
    ∀ e ∈ said, e.call.isRead = true ∧ e.call.isConfiguration = false := by
  unfold Asked at h
  split at h
  · obtain ⟨rfl, -⟩ := h
    simp
  · obtain ⟨answer?, rfl, -⟩ := h
    simp [Call.isRead, Call.isConfiguration]

/-- Nothing but the call that makes the instance is more than a reading, and none reads a configuration. -/
theorem Made.calls {made? : Option (Except Failure Identity)} (h : Made desired made? said) :
    (said = [] ∧ ∃ why, made? = some (.error why)) ∨ ∃ e polls, said = e :: polls ∧
      e.call.isCreation = true ∧ ∀ poll ∈ polls, poll.call.isRead = true ∧ poll.call.isConfiguration = false := by
  cases h with
  | impossible => exact .inl ⟨rfl, _, rfl⟩
  | denied he | panicked he => exact .inr ⟨_, [], rfl, he, by simp⟩
  | created he => exact .inr ⟨_, [], rfl, he, by simp⟩
  | copied hrequest hawaited =>
    refine .inr ⟨_, _, rfl, rfl, fun poll hpoll => ?_⟩
    rw [hawaited.1 poll hpoll]
    exact ⟨rfl, rfl⟩

theorem Made.not_isConfiguration {made? : Option (Except Failure Identity)} (h : Made desired made? said) :
    ∀ e ∈ said, e.call.isConfiguration = false := by
  rcases h.calls with ⟨rfl, -⟩ | ⟨e, polls, rfl, he, hpolls⟩
  · simp
  · refine List.forall_mem_cons.2 ⟨?_, fun poll hpoll => (hpolls poll hpoll).2⟩
    cases hcall : e.call <;> rw [hcall] at he <;> first | rfl | cases he

theorem Reads.configuration {reading : Except Failure Observed} (h : Reads id reading said) :
    ∃ answer? rest, said = ⟨.configuration id, answer?⟩ :: rest := by
  cases h <;> exact ⟨_, _, rfl⟩

theorem Visited.configuration (h : Visited desired id result? said) :
    ∃ answer? rest, said = ⟨.configuration id, answer?⟩ :: rest := by
  cases h with
  | unread h => cases h <;> exact ⟨_, _, rfl⟩
  | failed h | idle h => exact h.configuration
  | changed h =>
    obtain ⟨answer?, rest, rfl⟩ := h.configuration
    exact ⟨answer?, _, rfl⟩

theorem Visited.not_isCreation (h : Visited desired id result? said) :
    ∀ e ∈ said, e.call.isCreation = false := by
  have hreads {reading : Except Failure Observed} {said : List Event} (h : Reads id reading said) :
      ∀ e ∈ said, e.call.isCreation = false :=
    fun e he => Call.not_isCreation_of_isRead (h.isRead e he)
  cases h with
  | unread h => cases h <;> simp [Call.isCreation]
  | failed h | idle h => exact hreads h
  | changed h _ hmore => exact List.forall_mem_append.2 ⟨hreads h, hmore⟩

/-- What is read is found by what is said, whatever follows. -/
theorem Reads.unique {a b : Except Failure Observed} {xs ys : List Event} (hx : Reads id a xs)
    (hy : Reads other b ys) {later : List Event} (h : xs ++ first = ys ++ later) : a = b ∧ first = later := by
  cases hx <;> cases hy <;> cases h <;> exact ⟨rfl, rfl⟩

theorem Unread.not_reads {reading : Except Failure Observed} (h : Unread id (first ++ later))
    (hreads : Reads other reading first) : False := by
  generalize hsaid : first ++ later = said at h
  cases h <;> cases hreads <;> cases hsaid

/-- A pass ends with the failure of its reading; that there is no instance is none. -/
theorem Visited.of_failed {why : Failure} (h : Visited desired id result? (first ++ later))
    (hreads : Reads other (.error why) first) :
    later = [] ∧ (why.isNotFound = false → result? = some (.error why)) := by
  generalize hsaid : first ++ later = said at h
  cases h with
  | unread h => exact absurd hreads (hsaid ▸ h).not_reads
  | failed hfailed hresult =>
    obtain ⟨hwhy, rfl⟩ := hreads.unique hfailed (hsaid.trans (List.append_nil _).symm)
    cases hwhy
    exact ⟨rfl, fun hother => congrArg some (hresult hother)⟩
  | idle hidle => cases (hreads.unique hidle (hsaid.trans (List.append_nil _).symm)).1
  | changed hchanged => cases (hreads.unique hchanged hsaid).1

/-- A pass that plans no changes says nothing more. -/
theorem Visited.of_idle {observed : Observed} (h : Visited desired id result? (first ++ later))
    (hreads : Reads other (.ok observed) first)
    (hidle : (Plan.planPass desired observed desired.clone.isSome).plan.hasChanges = false) : later = [] := by
  generalize hsaid : first ++ later = said at h
  cases h with
  | unread h => exact absurd hreads (hsaid ▸ h).not_reads
  | failed hfailed => cases (hreads.unique hfailed (hsaid.trans (List.append_nil _).symm)).1
  | idle hread => exact (hreads.unique hread (hsaid.trans (List.append_nil _).symm)).2
  | changed hchanged hchanges =>
    cases (hreads.unique hchanged hsaid).1
    rw [hidle] at hchanges
    cases hchanges

end Stages

namespace Application

variable {desired : Desired} {result? : Option (Except Failure Report)} {said before later : List Event}
  {e : Event}

/-- Where an instance is made, none was there before, and the calls to make it and the pass over it follow. -/
theorem of_creation (h : Application desired result? (before ++ e :: later)) (he : e.call.isCreation = true) :
    Absent desired before ∧ ∃ made? polls passed, Made desired made? (e :: polls) ∧ later = polls ++ passed ∧
      (passed = [] ∧ Reconciler.Breaks made? result? ∨
        ∃ id, made? = some (.ok id) ∧ Visited desired id result? passed) := by
  have hread {xs : List Event} (h : ∀ x ∈ xs, x.call.isRead = true ∧ x.call.isConfiguration = false) :
      e ∉ xs := by
    intro hmem
    rw [Call.not_isCreation_of_isRead (h e hmem).1] at he
    cases he
  have hvisited {id : Identity} {passed : List Event} (h : Visited desired id result? passed) : e ∉ passed := by
    intro hmem
    rw [h.not_isCreation e hmem] at he
    cases he
  generalize hsaid : before ++ e :: later = said at h
  cases h with
  | unasked hasked => exact absurd (by simp [← hsaid]) (hread hasked.isRead)
  | existing hasked hpassed =>
    have hmem : e ∈ before ++ e :: later := by simp
    rw [hsaid] at hmem
    rcases List.mem_append.1 hmem with hmem | hmem
    · exact absurd hmem (hread hasked.isRead)
    · exact absurd hmem (hvisited hpassed)
  | unmade hasked hmade hbreaks =>
    rcases hmade.calls with ⟨rfl, -⟩ | ⟨c, polls, rfl, -, hpolls⟩
    · exact absurd (by simp [← hsaid.trans (List.append_nil _)]) (hread hasked.isRead)
    · obtain ⟨rfl, rfl, rfl⟩ := append_cons_unique hsaid.symm (hread hasked.isRead)
        fun hmem => hread hpolls hmem.2
      exact ⟨hasked.absent, _, later, [], hmade, (List.append_nil _).symm, .inl ⟨rfl, hbreaks⟩⟩
  | made hasked hmade hpassed =>
    rcases hmade.calls with ⟨-, why, hwhy⟩ | ⟨c, polls, rfl, -, hpolls⟩
    · cases hwhy
    · obtain ⟨rfl, rfl, rfl⟩ := append_cons_unique hsaid.symm (hread hasked.isRead)
        fun hmem => (List.mem_append.1 hmem.2).elim (hread hpolls) (hvisited hpassed)
      exact ⟨hasked.absent, _, polls, _, hmade, rfl, .inr ⟨_, rfl, hpassed⟩⟩

/-- A run is the questions and calls before its pass, of which none reads a configuration, and then the pass, if
it comes to one. -/
theorem exists_pass (h : Application desired result? said) :
    ∃ first passed, said = first ++ passed ∧ (∀ e ∈ first, e.call.isConfiguration = false) ∧
      (passed = [] ∨ ∃ id, Visited desired id result? passed) := by
  cases h with
  | unasked hasked =>
    exact ⟨_, [], (List.append_nil _).symm, fun e he => (hasked.isRead e he).2, .inl rfl⟩
  | existing hasked hpassed => exact ⟨_, _, rfl, fun e he => (hasked.isRead e he).2, .inr ⟨_, hpassed⟩⟩
  | unmade hasked hmade =>
    exact ⟨_, [], (List.append_nil _).symm,
      List.forall_mem_append.2 ⟨fun e he => (hasked.isRead e he).2, hmade.not_isConfiguration⟩, .inl rfl⟩
  | made hasked hmade hpassed =>
    exact ⟨_, _, (List.append_assoc _ _ _).symm,
      List.forall_mem_append.2 ⟨fun e he => (hasked.isRead e he).2, hmade.not_isConfiguration⟩, .inr ⟨_, hpassed⟩⟩

/-- Where a configuration is read for the first time, the pass begins. -/
theorem of_configuration (h : Application desired result? (before ++ e :: later))
    (hbefore : ∀ b ∈ before, b.call.isConfiguration = false) (he : e.call.isConfiguration = true) :
    ∃ id, Visited desired id result? (e :: later) := by
  obtain ⟨first, passed, hsaid, hfirst, hpassed⟩ := h.exists_pass
  have hnot : e ∉ first := by
    intro hmem
    rw [hfirst e hmem] at he
    cases he
  rcases hpassed with rfl | ⟨id, hvisited⟩
  · exact absurd (by simp [← hsaid.trans (List.append_nil _)]) hnot
  · obtain ⟨answer?, rest, rfl⟩ := hvisited.configuration
    obtain ⟨rfl, rfl, rfl⟩ := append_cons_unique hsaid.symm hnot
      fun hmem => absurd (hbefore _ hmem.1) (by simp [Call.isConfiguration])
    exact ⟨id, hvisited⟩

end Application

/-! ## The protocol -/

/-- The protocol by which an instance comes into being, of what is said in a run and what the run ends with;
none if it stops at a reading that is never answered, or panics. -/
structure Protocol (desired : Desired) (result? : Option (Except Failure Report)) (said : List Event) :
    Prop where
  /-- No second instance is made. -/
  once : said.countP (fun e => e.call.isCreation) ≤ 1
  /-- One is made only if none is declared by its number or that one is missing on the declared node. -/
  needed : ∀ before e later, said = before ++ e :: later → e.call.isCreation = true → Absent desired before
  /-- A declared one is asked for first, and a failure of that other than its absence ends the run. -/
  asked : ∀ n ∈ desired.id, ∃ (answer? : Option (Except Failure Status)) (later : List Event),
    said = ⟨.status (desired.identity n), answer?⟩ :: later ∧
      ∀ why, answer? = some (.error why) → why.isNotFound = false →
        later = [] ∧ result? = some (.error why)
  /-- Before anything else is changed, a copy was seen unlocked where its source lives. -/
  unlocked : ∀ before e between m after, said = before ++ e :: (between ++ m :: after) →
    e.call.isClone = true → m.call.isRead = false → ∃ (source : Identity) (request : CloneRequest)
      (attempts newId : UInt32), desired.cloneRequest? = some (source, request) ∧
        e = ⟨.clone source request attempts, some (.ok newId)⟩ ∧
        ∃ u ∈ between, u.call = .status { source with id := newId } ∧ u.shows .unlocked = true
  /-- An instance that cannot be asked for is not made. -/
  impossible : ∀ before later why, said = before ++ later → Absent desired before → desired.clone = none →
    desired.createRequest = .error why → later = [] ∧ result? = some (.error why)
  /-- The run ends when the instance is not made, with the failure of that call or the panic in it. -/
  denied : ∀ before e later, said = before ++ e :: later → e.call.isCreation = true → e.isOk = false →
    later = [] ∧ ((∃ why, result? = some (.error why) ∧ e.Fails why) ∨ result? = none ∧ e.answer = none)
  /-- The run ends when a copy is not seen unlocked: one of its readings failed, or it was too late. -/
  locked : ∀ before e polls, said = before ++ e :: polls → e.call.isClone = true → e.isOk = true →
    (∀ u ∈ polls, u.shows .unlocked = false) → (∀ u ∈ polls, u.call.isRead = true) ∧
      ∀ result, result? = some result → ∃ why, result = .error why ∧
        (why.isTimeout = true ∨ ∃ last ∈ polls.getLast?, last.failure? = some why)
  /-- The run ends when the instance cannot be read the first time, or is missing. -/
  unread : ∀ before first later id why, said = before ++ (first ++ later) →
    (∀ e ∈ before, e.call.isConfiguration = false) → Reads id (.error why) first →
    later = [] ∧ (why.isNotFound = false → result? = some (.error why))
  /-- The run ends when there is nothing to do. -/
  idle : ∀ before first later id observed, said = before ++ (first ++ later) →
    (∀ e ∈ before, e.call.isConfiguration = false) → Reads id (.ok observed) first →
    (Plan.planPass desired observed desired.clone.isSome).plan.hasChanges = false → later = []

section Outcomes

variable {desired : Desired} {result? : Option (Except Failure Report)}

theorem Asked.of_id {found? : Option (Except Failure (Option Identity))} {asked : List Event} {n : UInt32}
    (h : Asked desired found? asked) (hid : desired.id = some n) :
    ∃ answer? : Option (Except Failure Status), asked = [⟨.status (desired.identity n), answer?⟩] ∧
      ∀ why, answer? = some (.error why) → why.isNotFound = false → found? = some (.error why) := by
  rw [Asked, hid] at h
  obtain ⟨answer?, rfl, rfl⟩ := h
  refine ⟨answer?, rfl, fun why hwhy hother => ?_⟩
  subst hwhy
  simp [hother]

theorem Asked.of_absent {found? : Option (Except Failure (Option Identity))} {asked before rest later : List Event}
    (h : Asked desired found? asked) (habsent : Absent desired before) (hsaid : asked ++ rest = before ++ later) :
    found? = some (.ok none) ∧ rest = later := by
  rcases habsent with ⟨hid, rfl⟩ | ⟨n, why, hid, rfl, hmissing⟩
  · rw [Asked, hid] at h
    obtain ⟨rfl, rfl⟩ := h
    exact ⟨rfl, hsaid⟩
  · rw [Asked, hid] at h
    obtain ⟨answer?, rfl, rfl⟩ := h
    cases hsaid
    refine ⟨?_, rfl⟩
    change some (if why.isNotFound = true then Except.ok none else Except.error why) = some (.ok none)
    rw [if_pos hmissing]

theorem Made.of_impossible {made? : Option (Except Failure Identity)} {made : List Event} {why : Failure}
    (h : Made desired made? made) (hclone : desired.clone = none)
    (hrequest : desired.createRequest = .error why) : made = [] ∧ made? = some (.error why) := by
  cases h with
  | impossible _ hwhy =>
    rw [hrequest] at hwhy
    cases hwhy
    exact ⟨rfl, rfl⟩
  | denied _ _ _ hok | panicked _ _ hok =>
    obtain ⟨request, hok⟩ := hok hclone
    rw [hrequest] at hok
    cases hok
  | created _ _ _ hok =>
    obtain ⟨request, hok⟩ := hok
    rw [hrequest] at hok
    cases hok
  | copied hcopy =>
    rw [Desired.cloneRequest?, hclone] at hcopy
    cases hcopy

end Outcomes

/-- A stage that ends the run has not succeeded. -/
theorem Reconciler.Breaks.not_ok {stage? : Option (Except Failure α)} {result? : Option (Except Failure Report)}
    (h : Breaks stage? result?) (a : α) : stage? ≠ some (.ok a) := by
  rcases h with ⟨rfl, -⟩ | ⟨why, rfl, -⟩ <;> exact fun h => (by cases h)

theorem Reconciler.Breaks.of_none {result? : Option (Except Failure Report)}
    (h : Breaks (none : Option (Except Failure α)) result?) : result? = none := by
  rcases h with ⟨-, hresult⟩ | ⟨why, hwhy, -⟩
  · exact hresult
  · cases hwhy

theorem Reconciler.Breaks.of_error {why : Failure} {result? : Option (Except Failure Report)}
    (h : Breaks (some (.error why) : Option (Except Failure α)) result?) : result? = some (.error why) := by
  rcases h with ⟨h, -⟩ | ⟨other, h, hresult⟩
  · cases h
  · cases h
    exact hresult

namespace Application

variable {desired : Desired} {result? : Option (Except Failure Report)} {said : List Event}

theorem countP_isCreation_le (h : Application desired result? said) :
    said.countP (fun e => e.call.isCreation) ≤ 1 := by
  have hzero {xs : List Event} (hxs : ∀ e ∈ xs, e.call.isCreation = false) :
      xs.countP (fun e => e.call.isCreation) = 0 := List.countP_eq_zero.2 (by simpa using hxs)
  have hasked {found? : Option (Except Failure (Option Identity))} {asked : List Event}
      (h : Asked desired found? asked) : asked.countP (fun e => e.call.isCreation) = 0 :=
    hzero fun e he => Call.not_isCreation_of_isRead (h.isRead e he).1
  have hmade {made? : Option (Except Failure Identity)} {made : List Event} (h : Made desired made? made) :
      made.countP (fun e => e.call.isCreation) ≤ 1 := by
    rcases h.calls with ⟨rfl, -⟩ | ⟨e, polls, rfl, he, hpolls⟩
    · simp
    · rw [List.countP_cons, hzero fun poll hpoll => Call.not_isCreation_of_isRead (hpolls poll hpoll).1, he]
      simp
  cases h with
  | unasked h => simp [hasked h]
  | existing h hpassed => simp [hasked h, hzero hpassed.not_isCreation]
  | unmade h hm => simpa [hasked h] using hmade hm
  | made h hm hpassed => simpa [hasked h, hzero hpassed.not_isCreation] using hmade hm

theorem asked_of_id (h : Application desired result? said) {n : UInt32} (hid : desired.id = some n) :
    ∃ (answer? : Option (Except Failure Status)) (later : List Event),
      said = ⟨.status (desired.identity n), answer?⟩ :: later ∧
        ∀ why, answer? = some (.error why) → why.isNotFound = false →
          later = [] ∧ result? = some (.error why) := by
  cases h with
  | unasked hasked hbreaks =>
    obtain ⟨answer?, rfl, hwhy⟩ := hasked.of_id hid
    refine ⟨answer?, [], rfl, fun why hanswer hother => ⟨rfl, ?_⟩⟩
    rw [hwhy why hanswer hother] at hbreaks
    exact hbreaks.of_error
  | existing hasked | unmade hasked | made hasked =>
    obtain ⟨answer?, rfl, hwhy⟩ := hasked.of_id hid
    exact ⟨answer?, _, rfl, fun why hanswer hother => (by cases hwhy why hanswer hother)⟩

theorem of_impossible {before later : List Event} {why : Failure}
    (h : Application desired result? (before ++ later)) (habsent : Absent desired before)
    (hclone : desired.clone = none) (hrequest : desired.createRequest = .error why) :
    later = [] ∧ result? = some (.error why) := by
  generalize hsaid : before ++ later = said at h
  cases h with
  | unasked hasked hbreaks =>
    obtain ⟨hfound, -⟩ := hasked.of_absent habsent ((List.append_nil _).trans hsaid.symm)
    exact absurd hfound (hbreaks.not_ok _)
  | existing hasked => cases (hasked.of_absent habsent hsaid.symm).1
  | unmade hasked hmade hbreaks =>
    obtain ⟨-, rfl⟩ := hasked.of_absent habsent hsaid.symm
    obtain ⟨rfl, rfl⟩ := hmade.of_impossible hclone hrequest
    exact ⟨rfl, hbreaks.of_error⟩
  | made hasked hmade => cases (hmade.of_impossible hclone hrequest).2

/-- What follows the making of an instance that does not succeed. -/
theorem of_denied {before later : List Event} {e : Event}
    (h : Application desired result? (before ++ e :: later)) (he : e.call.isCreation = true)
    (hfails : e.isOk = false) :
    later = [] ∧ ((∃ why, result? = some (.error why) ∧ e.Fails why) ∨ result? = none ∧ e.answer = none) := by
  obtain ⟨-, made?, polls, passed, hmade, rfl, hrest⟩ := h.of_creation he
  cases hmade with
  | denied _ _ hwhy =>
    rcases hrest with ⟨rfl, hbreaks⟩ | ⟨id, hid, -⟩
    · exact ⟨rfl, .inl ⟨_, hbreaks.of_error, hwhy⟩⟩
    · cases hid
  | panicked _ hnone =>
    rcases hrest with ⟨rfl, hbreaks⟩ | ⟨id, hid, -⟩
    · exact ⟨rfl, .inr ⟨hbreaks.of_none, hnone⟩⟩
    · cases hid
  | created _ _ hok =>
    rw [hfails] at hok
    cases hok
  | copied => cases hfails

/-- What follows a copy that was made: the wait for it, and if that succeeds, the pass over it. -/
theorem of_copied {before later : List Event} {e : Event}
    (h : Application desired result? (before ++ e :: later)) (he : e.call.isClone = true)
    (hok : e.isOk = true) : ∃ (source : Identity) (request : CloneRequest) (attempts newId : UInt32)
      (waited? : Option (Except Failure Unit)) (polls passed : List Event),
        desired.cloneRequest? = some (source, request) ∧ later = polls ++ passed ∧
        e = ⟨.clone source request attempts, some (.ok newId)⟩ ∧
        Hypervisor.Awaited { source with id := newId } .unlocked waited? polls ∧
        (waited? = some (.ok ()) ∨ passed = [] ∧ Reconciler.Breaks waited? result?) := by
  obtain ⟨-, made?, polls, passed, hmade, rfl, hrest⟩ := h.of_creation (Call.isCreation_of_isClone he)
  cases hmade with
  | denied _ hfails =>
    rw [hok] at hfails
    cases hfails
  | panicked _ hnone => simp [Event.isOk, hnone] at hok
  | created _ hcreate =>
    rw [he] at hcreate
    cases hcreate
  | @copied source request attempts newId waited? _ hcopy hawaited =>
    refine ⟨source, request, attempts, newId, waited?, polls, passed, hcopy, rfl, rfl, hawaited, ?_⟩
    rcases waited? with _ | why | ⟨⟩
    · rcases hrest with ⟨rfl, hbreaks⟩ | ⟨id, hid, -⟩
      · exact .inr ⟨rfl, .inl ⟨rfl, hbreaks.of_none⟩⟩
      · cases hid
    · rcases hrest with ⟨rfl, hbreaks⟩ | ⟨id, hid, -⟩
      · exact .inr ⟨rfl, .inr ⟨why, rfl, hbreaks.of_error⟩⟩
      · cases hid
    · exact .inl rfl

theorem protocol (h : Application desired result? said) : Protocol desired result? said where
  once := h.countP_isCreation_le
  needed := by
    rintro before e later rfl he
    exact (h.of_creation he).1
  asked n hn := h.asked_of_id hn
  unlocked := by
    rintro before e between m after rfl hclone hm
    have hok : e.isOk = true := by
      by_contra hfails
      simpa using (h.of_denied (Call.isCreation_of_isClone hclone) (by simpa using hfails)).1
    obtain ⟨source, request, attempts, newId, waited?, polls, passed, hcopy, hlater, rfl, hawaited, hrest⟩ :=
      h.of_copied hclone hok
    refine ⟨source, request, attempts, newId, hcopy, rfl, ?_⟩
    have hpolls : m ∉ polls := fun hmem => by
      rw [hawaited.1 m hmem] at hm
      cases hm
    -- a change among what follows comes after the wait, which has therefore succeeded
    have hsub : polls ⊆ between := by
      rcases List.append_eq_append_iff.1 hlater with ⟨rest, rfl, hrest⟩ | ⟨rest, rfl, hrest⟩
      · cases rest with
        | nil => simp
        | cons c rest =>
          cases hrest
          simp at hpolls
      · exact List.subset_append_left _ _
    rcases hrest with rfl | ⟨rfl, -⟩
    · obtain ⟨hstatus, start, last, rfl, hlast, -⟩ := hawaited.2 _ rfl
      exact ⟨last, hsub (by simp), hawaited.1 last (by simp), hlast⟩
    · exact absurd (show m ∈ polls by rw [← List.append_nil polls, ← hlater]; simp) hpolls
  impossible := by
    rintro before later why rfl habsent hclone hrequest
    exact h.of_impossible habsent hclone hrequest
  denied := by
    rintro before e later rfl he hfails
    exact h.of_denied he hfails
  locked := by
    rintro before e later rfl hclone hok hlocked
    obtain ⟨source, request, attempts, newId, waited?, polls, passed, -, rfl, rfl, hawaited, hrest⟩ :=
      h.of_copied hclone hok
    rcases hrest with rfl | ⟨rfl, hbreaks⟩
    · obtain ⟨-, start, last, rfl, hlast, -⟩ := hawaited.2 _ rfl
      rw [hlocked last (by simp)] at hlast
      cases hlast
    · rw [List.append_nil]
      refine ⟨fun u hu => by rw [hawaited.1 u hu]; rfl, fun result hresult => ?_⟩
      rcases hbreaks with ⟨-, hnone⟩ | ⟨why, rfl, hwhy⟩
      · rw [hnone] at hresult
        cases hresult
      · rw [hwhy] at hresult
        cases hresult
        exact ⟨why, rfl, (hawaited.2 _ rfl).2.2⟩
  unread := by
    rintro before first later id why rfl hbefore hreads
    obtain ⟨answer?, rest, rfl⟩ := hreads.configuration
    exact (h.of_configuration hbefore rfl).choose_spec.of_failed hreads
  idle := by
    rintro before first later id observed rfl hbefore hreads hidle
    obtain ⟨answer?, rest, rfl⟩ := hreads.configuration
    exact (h.of_configuration hbefore rfl).choose_spec.of_idle hreads hidle

end Application

/-- A run that brings an instance to its declared state keeps the protocol, whatever the hypervisor answers:
all its calls are in the transcript, and it ends unless a reading is never answered or the run panics, in a
call or because a timeout is past the last moment of the clock. -/
theorem Reconciler.apply_protocol (r : Reconciler σ) (desired : Desired) (w : World σ) (t : Nat) :
    Recounts (r.transcribed.apply desired) (r.apply desired) r.timeouts.toList w t (Protocol desired) :=
  (r.transcribes_apply desired).recounts ((r.tracks_apply desired).imp fun _ _ h => h.protocol) w t

end Steward
