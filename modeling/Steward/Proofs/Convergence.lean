/-
What a report of convergence is worth. It stands on the last reading of the run: read the same again, and
nothing is left to do. But it also stands where a new instance was gone at once, and it does not look at what
a plan without steps says that cannot be done.
-/
import Mathlib
import Steward.Proofs.Ledger

namespace Steward

variable {σ τ : Type}

/-! ## Readings -/

/-- What is said in reading an instance, and what is learned from it. -/
inductive Reads (id : Identity) : Except Failure Observed → List Event → Prop
  | noConfiguration (why : Failure) : Reads id (.error why) [⟨.configuration id, some (.error why)⟩]
  | noStatus (remote : Remote) (why : Failure) :
      Reads id (.error why) [⟨.configuration id, some (.ok remote)⟩, ⟨.status id, some (.error why)⟩]
  | both (remote : Remote) (status : Status) : Reads id (remote.observe id status)
      [⟨.configuration id, some (.ok remote)⟩, ⟨.status id, some (.ok status)⟩]

/-- What a reading finds: that an instance does not exist is no failure. -/
inductive Finds (id : Identity) : Except Failure (Option Observed) → List Event → Prop
  | missing {why : Failure} {said : List Event} :
      why.isNotFound = true → Reads id (.error why) said → Finds id (.ok none) said
  | failed {why : Failure} {said : List Event} :
      why.isNotFound = false → Reads id (.error why) said → Finds id (.error why) said
  | present {observed : Observed} {said : List Event} :
      Reads id (.ok observed) said → Finds id (.ok (some observed)) said

/-- How carrying out a plan ends, if it ends with a report: convergence is reported only after another reading,
which leaves nothing to do. -/
def EndsApplied (desired : Desired) (copied : Bool) (plan : Plan) (result : Except Failure Report)
    (said : List Event) : Prop :=
  ∀ report, result = .ok report → report.outcome = .applied ∧ report.plan = plan ∧
    (report.converged = true → ∃ before last observed, said = before ++ last ∧
      Reads report.identity (.ok observed) last ∧
      (Plan.planPass desired observed copied).plan.hasChanges = false)

/-- A reading of an instance that is never answered to its end. -/
inductive Unread (id : Identity) : List Event → Prop
  | configuration : Unread id [⟨.configuration id, none⟩]
  | status (remote : Remote) : Unread id [⟨.configuration id, some (.ok remote)⟩, ⟨.status id, none⟩]

/-- What is said in a pass over an instance that has been read, and how it ends, if it ends. -/
def Passed (desired : Desired) (copied : Bool) (id : Identity) (reading : Except Failure Observed)
    (result? : Option (Except Failure Report)) (more : List Event) : Prop :=
  match reading with
  | .error why => more = [] ∧ result? = some (if why.isNotFound then .ok (.deleted id) else .error why)
  | .ok observed =>
    let outcome := Plan.planPass desired observed copied
    if outcome.plan.hasChanges then
      ∀ result, result? = some result → EndsApplied desired copied outcome.plan result more
    else more = [] ∧
      result? = some (.ok ⟨id, .noChanges, outcome.plan, .empty, 0, outcome.failures, outcome.isClean⟩)

namespace Reconciler

open Steps

variable (r : Reconciler σ) {waits : List Duration} (desired : Desired) (id : Identity) (copied : Bool)

theorem tracks_read : (r.transcribed.read id).Tracks waits fun reading? said =>
    match reading? with
    | some reading => Reads id reading said
    | none => Unread id said := by
  refine (r.hypervisor.tracks_call (c := .configuration id) rfl).bind (fun said hsaid => ?_)
    (fun why said hsaid => ?_) fun remote said hsaid => ?_
  · subst hsaid
    exact .configuration
  · subst hsaid
    exact .noConfiguration why
  · subst hsaid
    refine (r.hypervisor.tracks_call (c := .status id) rfl).bind (fun said hsaid => ?_)
      (fun why said hsaid => ?_) fun status said hsaid => ?_
    · subst hsaid
      exact .status remote
    · subst hsaid
      exact .noStatus remote why
    · subst hsaid
      exact .ofExcept (.both remote status)

theorem tracks_read? : (r.transcribed.read? id).Tracks waits fun found? said =>
    match found? with
    | some found => Finds id found said
    | none => Unread id said := by
  refine (r.tracks_read id).bind_attempt (fun _ hunread => hunread) fun reading said hreads => ?_
  rw [← List.append_nil said] at hreads
  cases reading with
  | ok observed => exact .pure (.present hreads)
  | error why =>
    dsimp only
    cases hmissing : why.isNotFound with
    | true => exact .pure (.missing hmissing hreads)
    | false => exact .throw (.failed hmissing hreads)

theorem tracks_plan : (r.transcribed.plan desired id copied).Tracks waits fun planned? said =>
    match planned? with
    | some planned => ∃ found, Finds id found said ∧ planned = found.map
        (Option.map fun observed => (observed, Plan.planPass desired observed copied))
    | none => Unread id said := by
  refine (r.tracks_read? id).bind (fun _ hunread => hunread) (fun why said hfinds => ⟨_, hfinds, rfl⟩)
    fun observed? said hfinds => ?_
  exact .pure ⟨_, by rwa [List.append_nil], rfl⟩

/-- Only a plan without steps confirms. -/
theorem says_confirm : (r.transcribed.confirm desired id copied).Says waits fun result said =>
    ∀ failures, result = .ok (true, failures) → ∃ observed, Reads id (.ok observed) said ∧
      (Plan.planPass desired observed copied).plan.hasChanges = false := by
  refine (r.tracks_plan desired id copied).toSays.bind_attempt fun result said hsaid => ?_
  obtain ⟨found, hfinds, rfl⟩ := hsaid
  cases hfinds with
  | missing | failed => exact .pure fun failures hresult => nomatch hresult
  | present hreads =>
    refine .pure fun failures hresult => ⟨_, by rwa [List.append_nil], ?_⟩
    simpa using congrArg Prod.fst (Except.ok.inj hresult)

theorem says_carryOut (observed : Observed) (outcome : PlanOutcome) :
    (r.transcribed.carryOut desired observed copied outcome).Says r.timeouts.toList
      (EndsApplied desired copied outcome.plan) := by
  refine .bind_now fun start => (r.says_execute _ _ _).bind (fun why said hsaid => ?_)
    fun done before hsaid => .bind_now fun finish => ?_
  · obtain ⟨_, _, hresult, -⟩ := hsaid
    cases hresult
  · dsimp only
    split
    · refine (r.says_confirm desired _ copied).bind (fun why said hsaid report hreport => nomatch hreport)
        fun confirmed last hsaid => .pure fun report hreport => ?_
      cases hreport
      refine ⟨rfl, rfl, fun hconverged => ?_⟩
      obtain ⟨observed, hreads, hnone⟩ := hsaid confirmed.2 (by rw [← hconverged])
      exact ⟨before, last, observed, by rw [List.append_nil], hreads, hnone⟩
    · refine Says.bind (P := fun result said => result = .ok (false, [])) (.pure rfl)
        (fun why said hsaid report hreport => nomatch hreport) fun confirmed said hsaid => .pure ?_
      intro report hreport
      cases hsaid
      cases hreport
      exact ⟨rfl, rfl, fun hconverged => nomatch hconverged⟩

theorem tracks_pass : (r.transcribed.pass desired id copied).Tracks r.timeouts.toList fun result? said =>
    result? = none ∧ Unread id said ∨ ∃ reading first more, said = first ++ more ∧ Reads id reading first ∧
      Passed desired copied id reading result? more := by
  refine (r.tracks_plan desired id copied).bind (fun said hunread => .inl ⟨rfl, hunread⟩)
    (fun why first hsaid => .inr ?_) fun planned first hsaid => ?_
  · obtain ⟨found, hfinds, hresult⟩ := hsaid
    cases hfinds with
    | missing | present => cases hresult
    | failed hfailed hreads =>
      cases hresult
      exact ⟨.error why, first, [], (List.append_nil _).symm, hreads, rfl, by simp [hfailed]⟩
  · obtain ⟨found, hfinds, hresult⟩ := hsaid
    cases hfinds with
    | failed => cases hresult
    | @missing why _ hmissing hreads =>
      cases hresult
      exact .pure (.inr ⟨.error why, first, [], rfl, hreads, rfl, by simp [hmissing]⟩)
    | @present observed _ hreads =>
      cases hresult
      rw [Option.map_some]
      dsimp only
      split
      · rename_i hchanges
        refine Tracks.imp (r.says_carryOut desired copied observed _) fun result? more hmore => ?_
        refine .inr ⟨.ok observed, first, more, rfl, hreads, ?_⟩
        rw [Passed, if_pos hchanges]
        exact hmore
      · rename_i hchanges
        refine .pure (.inr ⟨.ok observed, first, [], rfl, hreads, ?_⟩)
        rw [Passed, if_neg hchanges]
        exact ⟨rfl, rfl⟩

theorem says_pass : (r.transcribed.pass desired id copied).Says r.timeouts.toList fun result said =>
    ∃ reading first more, said = first ++ more ∧ Reads id reading first ∧
      Passed desired copied id reading (some result) more := by
  refine (r.tracks_pass desired id copied).imp fun result? said hsaid result hresult => ?_
  rcases hsaid with ⟨hnone, -⟩ | hpassed
  · rw [hnone] at hresult
    cases hresult
  · rwa [hresult] at hpassed

end Reconciler

/-! ## What convergence stands on -/

/-- What the last reading of a run has to show for a report of convergence: that nothing is left to do, and
where the pass did nothing, nothing that cannot be done either; or that a new instance does not exist. -/
def Report.StandsOn (report : Report) (desired : Desired) (reading : Except Failure Observed) : Prop :=
  match reading with
  | .error why => why.isNotFound = true ∧ report.outcome = .created ∧ report.plan = .empty
  | .ok observed =>
    let outcome := Plan.planPass desired observed desired.clone.isSome
    outcome.plan.hasChanges = false ∧ (report.plan.hasChanges = false → outcome.failures = [])

/-- The last reading of a run that ends with a report. -/
def LastRead (report : Report) (desired : Desired) (said : List Event) : Prop :=
  ∃ before last reading, said = before ++ last ∧ Reads report.identity reading last ∧
    report.StandsOn desired reading

theorem LastRead.after {report : Report} {desired : Desired} {said : List Event}
    (h : LastRead report desired said) (earlier : List Event) :
    LastRead report desired (earlier ++ said) := by
  obtain ⟨before, last, reading, rfl, hreads, hstands⟩ := h
  exact ⟨earlier ++ before, last, reading, (List.append_assoc _ _ _).symm, hreads, hstands⟩

theorem LastRead.created {report : Report} {desired : Desired} {said : List Event}
    (h : LastRead report desired said) : LastRead { report with outcome := .created } desired said := by
  obtain ⟨before, last, reading, hsaid, hreads, hstands⟩ := h
  refine ⟨before, last, reading, hsaid, hreads, ?_⟩
  cases reading with
  | ok observed => exact hstands
  | error why => exact ⟨hstands.1, rfl, hstands.2.2⟩

/-- A pass reports convergence after a reading that leaves nothing to do, or of an instance that is gone. -/
theorem Passed.lastRead_or_deleted {desired : Desired} {id : Identity} {reading : Except Failure Observed}
    {report : Report} {first more : List Event} (hreads : Reads id reading first)
    (h : Passed desired desired.clone.isSome id reading (some (.ok report)) more)
    (hconverged : report.converged = true) :
    LastRead report desired (first ++ more) ∨
      report = .deleted id ∧ more = [] ∧ ∃ why, why.isNotFound = true ∧ reading = .error why := by
  cases reading with
  | error why =>
    obtain ⟨hmore, hresult⟩ := h
    have hresult := Option.some.inj hresult
    split at hresult
    · rename_i hmissing
      exact .inr ⟨Except.ok.inj hresult, hmore, why, hmissing, rfl⟩
    · cases hresult
  | ok observed =>
    rw [Passed] at h
    split at h
    · rename_i hchanges
      obtain ⟨-, hplan, hlast⟩ := h _ rfl report rfl
      obtain ⟨before, last, observed', rfl, hreads', hnone⟩ := hlast hconverged
      refine .inl (LastRead.after ⟨before, last, .ok observed', rfl, hreads', hnone, fun hidle => ?_⟩ first)
      rw [hplan, hchanges] at hidle
      cases hidle
    · rename_i hidle
      obtain ⟨rfl, hresult⟩ := h
      cases hresult
      refine .inl ⟨[], first, .ok observed, List.append_nil _, hreads, by simpa using hidle, fun _ => ?_⟩
      simpa [PlanOutcome.isClean] using hconverged

namespace Reconciler

open Steps

variable (r : Reconciler σ) (desired : Desired)

theorem says_provision : (r.transcribed.provision desired).Says r.timeouts.toList fun _ _ => True := by
  unfold provision
  split
  · have hwaits : ∃ d ∈ r.timeouts.toList, r.timeouts.clone ≤ d :=
      ⟨r.timeouts.clone, by simp [Timeouts.toList], le_rfl⟩
    exact (r.hypervisor.says_callWithin _ _ _).bind (fun _ _ _ => trivial) fun _ _ _ =>
      (r.hypervisor.says_waitFor _ _ hwaits).bind (fun _ _ _ => trivial) fun _ _ _ => .pure trivial
  · exact (Says.ofExcept (Q := fun _ _ => True) trivial).bind (fun _ _ _ => trivial) fun _ _ _ =>
      (r.hypervisor.says_callWithin _ _ _).bind (fun _ _ _ => trivial) fun _ _ _ => .pure trivial

theorem says_reconcile (id : Identity) :
    (r.transcribed.reconcile desired id).Says r.timeouts.toList fun result said =>
      ∀ report, result = .ok report → report.converged = true → report.outcome ≠ .deleted →
        LastRead report desired said := by
  refine (r.says_pass desired id _).imp ?_
  rintro result said ⟨reading, first, more, rfl, hreads, hpassed⟩ report rfl hconverged hpresent
  rcases hpassed.lastRead_or_deleted hreads hconverged with hlast | ⟨rfl, -⟩
  · exact hlast
  · exact absurd rfl hpresent

theorem says_create : (r.transcribed.create desired).Says r.timeouts.toList fun result said =>
    ∀ report, result = .ok report → report.converged = true → LastRead report desired said := by
  refine (r.says_provision desired).bind (fun why said _ report hreport => nomatch hreport)
    fun id earlier _ => (r.says_pass desired id _).bind
      (fun why said hsaid report hreport => nomatch hreport) fun inner said hsaid => .pure ?_
  rintro report hreport hconverged
  obtain ⟨reading, first, more, rfl, hreads, hpassed⟩ := hsaid
  cases hreport
  rw [List.append_nil]
  refine LastRead.after ?_ earlier
  rcases hpassed.lastRead_or_deleted hreads hconverged with hlast | ⟨rfl, rfl, why, hmissing, rfl⟩
  · exact hlast.created
  · exact ⟨[], first, .error why, List.append_nil _, hreads, hmissing, rfl, rfl⟩

theorem says_declared? : (r.transcribed.declared? desired).Says r.timeouts.toList fun _ _ => True := by
  unfold declared?
  split
  · exact .pure trivial
  · rename_i n _
    refine (r.hypervisor.says_call (c := .status (desired.identity n)) rfl).bind_attempt fun answer _ _ => ?_
    cases answer with
    | ok status => exact .pure trivial
    | error failure =>
      dsimp only
      split
      · exact .pure trivial
      · exact .throw trivial

theorem says_apply : (r.transcribed.apply desired).Says r.timeouts.toList fun result said =>
    ∀ report, result = .ok report → report.converged = true → report.outcome ≠ .deleted →
      LastRead report desired said := by
  refine (r.says_declared? desired).bind (fun why said _ report hreport => nomatch hreport)
    fun declared earlier _ => ?_
  cases declared with
  | some id =>
    exact (r.says_reconcile desired id).imp fun result said hlast report hreport hconverged hpresent =>
      (hlast report hreport hconverged hpresent).after earlier
  | none =>
    exact (r.says_create desired).imp fun result said hlast report hreport hconverged _ =>
      (hlast report hreport hconverged).after earlier

/-- A pass over the instance that lives somewhere, or over the one that is declared. -/
def bring (desired : Desired) : Option Identity → Steps (World σ) Failure Report
  | some id => r.reconcile desired id
  | none => r.apply desired

theorem transcribes_bring (place : Option Identity) :
    Transcribes (r.transcribed.bring desired place) (r.bring desired place) :=
  match place with
  | some id => r.transcribes_reconcile desired id
  | none => r.transcribes_apply desired

theorem says_bring (place : Option Identity) :
    (r.transcribed.bring desired place).Says r.timeouts.toList fun result said =>
      ∀ report, result = .ok report → report.converged = true → report.outcome ≠ .deleted →
        LastRead report desired said :=
  match place with
  | some id => r.says_reconcile desired id
  | none => r.says_apply desired

end Reconciler

/-! ## Reading the same again -/

namespace Call

def isConfiguration : Call → Bool
  | configuration _ => true
  | _ => false

def isStatus : Call → Bool
  | status _ => true
  | _ => false

theorem isRead_of_isConfiguration {c : Call} (h : c.isConfiguration = true) :
    c.isRead = true ∧ c.isStatus = false := by
  cases c <;> first | exact ⟨rfl, rfl⟩ | cases h

theorem isRead_of_isStatus {c : Call} (h : c.isStatus = true) :
    c.isRead = true ∧ c.isConfiguration = false := by
  cases c <;> first | exact ⟨rfl, rfl⟩ | cases h

end Call

/-- The last thing that was said of a kind. -/
def lastSaid? (isKind : Call → Bool) (said : List Event) : Option Event :=
  (said.filter fun e => isKind e.call).getLast?

theorem lastSaid?_append (isKind : Call → Bool) (said more : List Event) :
    lastSaid? isKind (said ++ more) = (lastSaid? isKind more).or (lastSaid? isKind said) := by
  rw [lastSaid?, List.filter_append, List.getLast?_append]
  rfl

theorem isKind_of_lastSaid? {isKind : Call → Bool} {said : List Event} {e : Event}
    (h : lastSaid? isKind said = some e) : isKind e.call = true :=
  (List.mem_filter.1 (List.mem_of_getLast? h)).2

/-- Every reading is answered, and as the last one of its kind was. -/
def Repeats (said again : List Event) : Prop :=
  ∀ e ∈ again, e.call.isRead = true → e.answer.isSome = true ∧
    (lastSaid? Call.isConfiguration said = some e ∨ lastSaid? Call.isStatus said = some e)

namespace Repeats

variable {said again : List Event} {e : Event}

theorem configuration (h : Repeats said again) (he : e ∈ again) (hc : e.call.isConfiguration = true) :
    lastSaid? Call.isConfiguration said = some e := by
  obtain ⟨hread, hnot⟩ := Call.isRead_of_isConfiguration hc
  refine (h e he hread).2.resolve_right fun hstatus => ?_
  rw [isKind_of_lastSaid? hstatus] at hnot
  cases hnot

theorem status (h : Repeats said again) (he : e ∈ again) (hc : e.call.isStatus = true) :
    lastSaid? Call.isStatus said = some e := by
  obtain ⟨hread, hnot⟩ := Call.isRead_of_isStatus hc
  refine (h e he hread).2.resolve_left fun hconfiguration => ?_
  rw [isKind_of_lastSaid? hconfiguration] at hnot
  cases hnot

end Repeats

namespace Reads

variable {id : Identity} {reading reading' : Except Failure Observed} {before last first more : List Event}

theorem isRead (h : Reads id reading last) : ∀ e ∈ last, e.call.isRead = true := by
  cases h <;> simp [Call.isRead]

/-- Who reads the same learns the same. -/
theorem repeats (h : Reads id reading last) (h' : Reads id reading' first)
    (hsame : Repeats (before ++ last) (first ++ more)) : reading' = reading := by
  have hconfiguration {e : Event} (he : e ∈ first) (hc : e.call.isConfiguration = true) :
      (lastSaid? Call.isConfiguration last).or (lastSaid? Call.isConfiguration before) = some e := by
    rw [← lastSaid?_append]
    exact hsame.configuration (List.mem_append_left more he) hc
  have hstatus {e : Event} (he : e ∈ first) (hc : e.call.isStatus = true) :
      (lastSaid? Call.isStatus last).or (lastSaid? Call.isStatus before) = some e := by
    rw [← lastSaid?_append]
    exact hsame.status (List.mem_append_left more he) hc
  -- The configuration tells how far both readings came, the status what the longer ones learned.
  cases h' with
  | noConfiguration why' =>
    have hc := hconfiguration List.mem_cons_self rfl
    cases h <;> cases hc
    rfl
  | noStatus remote' why' =>
    have hc := hconfiguration List.mem_cons_self rfl
    have hs := hstatus (List.mem_cons_of_mem _ List.mem_cons_self) rfl
    cases h <;> cases hc
    · cases hs
      rfl
    · cases hs
  | both remote' status' =>
    have hc := hconfiguration List.mem_cons_self rfl
    have hs := hstatus (List.mem_cons_of_mem _ List.mem_cons_self) rfl
    cases h <;> cases hc
    · cases hs
    · cases hs
      rfl

theorem repeats_self (h : Reads id reading last) : Repeats last last := by
  cases h <;> simp [Repeats, lastSaid?, Call.isConfiguration, Call.isStatus]

end Reads

theorem Unread.not_repeats {id : Identity} {said heard : List Event} (h : Unread id heard) :
    ¬Repeats said heard := by
  intro hsame
  cases h with
  | configuration => cases (hsame _ List.mem_cons_self rfl).1
  | status remote => cases (hsame _ (List.mem_cons_of_mem _ List.mem_cons_self) rfl).1

/-- What a pass reports that does nothing after a reading. -/
def Report.idle (desired : Desired) (id : Identity) : Except Failure Observed → Report
  | .error _ => .deleted id
  | .ok observed =>
    let outcome := Plan.planPass desired observed desired.clone.isSome
    ⟨id, .noChanges, outcome.plan, .empty, 0, outcome.failures, outcome.isClean⟩

/-- A pass that found nothing to do has said nothing after its reading. -/
theorem Passed.silent {desired : Desired} {copied : Bool} {id : Identity} {reading : Except Failure Observed}
    {report : Report} {more : List Event} (h : Passed desired copied id reading (some (.ok report)) more)
    (hidle : report.outcome = .noChanges) : more = [] := by
  cases reading with
  | error why => exact h.1
  | ok observed =>
    rw [Passed] at h
    split at h
    · rw [(h _ rfl report rfl).1] at hidle
      cases hidle
    · exact h.1

/-- Where nothing is left to do, a pass ends after its reading. -/
theorem Passed.idle {desired : Desired} {report : Report} {id : Identity} {reading : Except Failure Observed}
    {result? : Option (Except Failure Report)} {more : List Event}
    (h : Passed desired desired.clone.isSome id reading result? more)
    (hstands : report.StandsOn desired reading) :
    more = [] ∧ result? = some (.ok (.idle desired id reading)) := by
  cases reading with
  | error why =>
    obtain ⟨hmore, hresult⟩ := h
    rw [if_pos hstands.1] at hresult
    exact ⟨hmore, hresult⟩
  | ok observed =>
    rw [Passed, if_neg (by simp [hstands.1])] at h
    exact h

/-- A pass that only repeats the last reading is clean if it finds the instance, and nothing about it that
cannot be done. -/
theorem Report.idle_clean_iff (desired : Desired) (id : Identity) (reading : Except Failure Observed) :
    (idle desired id reading).outcome = .noChanges ∧ (idle desired id reading).failures = [] ∧
        (idle desired id reading).converged = true ↔
      ∃ observed, reading = .ok observed ∧
        (Plan.planPass desired observed desired.clone.isSome).failures = [] := by
  cases reading with
  | error why => simp [idle, deleted]
  | ok observed => simp [idle, PlanOutcome.isClean]

namespace Reconciler

open Steps

/-- Convergence lasts: after a run that reports it, a pass that reads the same again changes nothing and ends.
It finds nothing to do and nothing wrong, exactly if the last reading of the run has found the instance and
nothing that cannot be done. Otherwise either the run has created the instance and not found it again, or it
has changed something and not looked at what could not be done in the end. -/
theorem settled_of_converged (r : Reconciler σ) (desired : Desired) (place : Option Identity) (w : World σ)
    (t : Nat) {report : Report} {v : World σ} {u : Nat}
    (hrun : r.bring desired place none w t = .done (.ok report) v u) (hconverged : report.converged = true)
    (hpresent : report.outcome ≠ .deleted) (next : Reconciler τ) (x : World τ) (s : Nat)
    (hsame : Repeats ((r.transcribed.bring desired place).transcript w t)
      ((next.transcribed.reconcile desired report.identity).transcript x s)) :
    ((r.transcribed.bring desired place) none w.transcribing t).mapState World.forget =
        .done (.ok report) v u ∧
      ∃ before last reading again y z,
        (r.transcribed.bring desired place).transcript w t = before ++ last ∧
        Reads report.identity reading last ∧ report.StandsOn desired reading ∧
        next.reconcile desired report.identity none x s = .done (.ok again) y z ∧
        (∃ reads, y.log = reads ++ x.log ∧ ∀ c ∈ reads, c.isRead = true) ∧
        again = .idle desired report.identity reading ∧
        (again.outcome = .noChanges ∧ again.failures = [] ∧ again.converged = true ↔
          ∃ observed, reading = .ok observed ∧
            (Plan.planPass desired observed desired.clone.isSome).failures = []) := by
  obtain ⟨hbring, -, hlast⟩ := (r.transcribes_bring desired place).tells (r.says_bring desired place) w t
  rw [hrun] at hbring hlast
  obtain ⟨before, last, reading, hsaid, hreads, hstands⟩ := hlast report rfl hconverged hpresent
  refine ⟨hbring, ?_⟩
  obtain ⟨-, hlog, hend, -⟩ := (next.transcribes_reconcile desired report.identity).recounts
    (next.tracks_pass desired report.identity desired.clone.isSome) x s
  rw [hsaid] at hsame
  generalize (next.transcribed.reconcile desired report.identity).transcript x s = heard at hsame hlog hend
  rcases hend with ⟨-, hunread⟩ | ⟨reading', first, more, rfl, hreads', hpassed⟩
  · -- Only a reading without an answer stops a pass that changes nothing, and such a reading repeats nothing.
    exact absurd hsame hunread.not_repeats
  · obtain rfl := hreads.repeats hreads' hsame
    obtain ⟨rfl, hresult⟩ := hpassed.idle hstands
    obtain ⟨y, z, hnext⟩ := Ending.exists_done_of_result? hresult
    rw [hnext] at hlog
    refine ⟨before, last, reading', _, y, z, hsaid, hreads, hstands, hnext, ⟨_, hlog, ?_⟩, rfl,
      Report.idle_clean_iff _ _ _⟩
    simpa using hreads'.isRead

end Reconciler

/-- What steps end with, if they end well. -/
def Ending.ok? {ε α : Type} : Ending σ ε α → Option α
  | .done (.ok a) _ _ => some a
  | _ => none

theorem Ending.exists_done_of_ok? {ε α : Type} {ending : Ending σ ε α} {a : α} (h : ending.ok? = some a) :
    ∃ s t, ending = .done (.ok a) s t := by
  unfold ok? at h
  split at h
  · cases h
    exact ⟨_, _, rfl⟩
  · cases h

/-- A hypervisor with one instance that stays as it is; it answers readings only. -/
def Hypervisor.steady (remote : Remote) (status : Status) : Hypervisor Unit
  | .configuration _, _ => ⟨.answered 0 (.ok remote) (), fun _ => ()⟩
  | .status _, _ => ⟨.answered 0 (.ok status) (), fun _ => ()⟩
  | _, _ => ⟨.silent, fun _ => ()⟩

def idleServer : Document where
  node := "pve1"
  id := some 100
  started := some false
  system := some { osType := some "l26" }

def idleServerKeeper : Reconciler Unit :=
  ⟨.steady (.ofList [("ostype", .string "l26")]) ⟨.stopped, none⟩, {}, 0⟩

theorem Reconciler.settled_of_converged_idleServer : ∃ desired report v u, idleServer.desired {} = .ok desired ∧
    idleServerKeeper.bring desired (some ⟨"pve1", 100, .vm⟩) none ⟨(), []⟩ 0 = .done (.ok report) v u ∧
    report.converged = true ∧ report.outcome ≠ .deleted ∧
    Repeats ((idleServerKeeper.transcribed.bring desired (some ⟨"pve1", 100, .vm⟩)).transcript ⟨(), []⟩ 0)
      ((idleServerKeeper.transcribed.reconcile desired report.identity).transcript ⟨(), []⟩ 0) ∧
    ∃ again y z, idleServerKeeper.reconcile desired report.identity none ⟨(), []⟩ 0 = .done (.ok again) y z ∧
      again.outcome = .noChanges ∧ again.failures = [] ∧ again.converged = true := by
  obtain ⟨desired, hd⟩ : ∃ desired, idleServer.desired {} = .ok desired := ⟨_, rfl⟩
  have hidle : ((idleServerKeeper.reconcile desired ⟨"pve1", 100, .vm⟩ none ⟨(), []⟩ 0).ok?.any fun report =>
      decide (report.identity = ⟨"pve1", 100, .vm⟩ ∧ report.outcome = .noChanges) &&
        report.failures.isEmpty && report.converged) = true := by
    cases hd
    decide +kernel
  obtain ⟨report, hreport, hidle⟩ := (Option.any_eq_true _ _).1 hidle
  obtain ⟨v, u, hrun⟩ := Ending.exists_done_of_ok? hreport
  simp only [Bool.and_eq_true, decide_eq_true_eq, List.isEmpty_iff] at hidle
  obtain ⟨⟨⟨hidentity, houtcome⟩, hfailures⟩, hconverged⟩ := hidle
  have hpresent : report.outcome ≠ .deleted := by
    rw [houtcome]
    decide
  have hsaid := ((idleServerKeeper.transcribes_reconcile desired ⟨"pve1", 100, .vm⟩).tells
    (idleServerKeeper.says_pass desired _ _) ⟨(), []⟩ 0).ending
  rw [hrun] at hsaid
  obtain ⟨reading, first, more, hsaid, hreads, hpassed⟩ := hsaid
  rw [hpassed.silent houtcome, List.append_nil] at hsaid
  have hsame : Repeats
      ((idleServerKeeper.transcribed.bring desired (some ⟨"pve1", 100, .vm⟩)).transcript ⟨(), []⟩ 0)
      ((idleServerKeeper.transcribed.reconcile desired report.identity).transcript ⟨(), []⟩ 0) := by
    rw [hidentity]
    change Repeats ((idleServerKeeper.transcribed.reconcile desired _).transcript _ _) _
    rw [hsaid]
    exact hreads.repeats_self
  obtain ⟨-, _, _, _, again, y, z, -, -, -, hagain, -⟩ := settled_of_converged idleServerKeeper desired
    (some ⟨"pve1", 100, .vm⟩) ⟨(), []⟩ 0 hrun hconverged hpresent idleServerKeeper ⟨(), []⟩ 0 hsame
  refine ⟨desired, report, v, u, hd, hrun, hconverged, hpresent, hsame, again, y, z, hagain, ?_⟩
  rw [hidentity, hrun] at hagain
  cases hagain
  exact ⟨houtcome, hfailures, hconverged⟩

end Steward
