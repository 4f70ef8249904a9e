/-
Whole passes for documents that differ in a password, over a hypervisor that does not answer to parameters:
the same calls are made of it, apart from the parameter that sets the password, and the reports differ in the
steps that set it.
-/
import Mathlib
import Steward.Proofs.Twins
import Steward.Proofs.TwoRuns

namespace Steward

variable {p q : String}

/-- A configuration that reports neither password. -/
def Remote.Hides (p q : String) (remote : Remote) : Prop :=
  remote.text? "cipassword" ≠ some p ∧ remote.text? "cipassword" ≠ some q

/-! ## Calls -/

namespace Intent.Twin

variable {i j k l : Intent}

theorem dependency (h : i.Twin p q j) : i.dependency = j.dependency := by
  cases h <;> rfl

theorem reason (h : i.Twin p q j) : i.reason = j.reason := by
  cases h <;> rfl

theorem isConfigChange (h : i.Twin p q j) : i.op.isConfigChange = j.op.isConfigChange := by
  cases h <;> rfl

theorem joins (hi : i.Twin p q j) (hk : k.Twin p q l) : i.joins k = j.joins l := by
  simp only [Intent.joins, hi.isConfigChange, hk.isConfigChange, hi.dependency, hk.dependency, hi.reason,
    hk.reason]

end Intent.Twin

namespace Twins

variable {as bs : List Intent}

theorem settings (h : Twins p q as bs) :
    List.Forall₂ (fun a b => a.1 = b.1) (Desired.settings as) (Desired.settings bs) := by
  induction h with
  | nil => exact .nil
  | @cons i j as bs hi hrest ih =>
    cases hi with
    | secret field reason dependency => exact .cons rfl ih
    | same _ =>
      obtain ⟨op, reason, dependency⟩ := i
      cases op with
      | update field param value => exact .cons rfl ih
      | _ => exact ih

theorem filterMap_eq {α : Type} {f : Intent → Option α} (h : Twins p q as bs)
    (hf : ∀ i j, Intent.Twin p q i j → f i = f j) : as.filterMap f = bs.filterMap f := by
  induction h with
  | nil => rfl
  | cons hi hrest ih => rw [List.filterMap_cons, List.filterMap_cons, hf _ _ hi, ih]

theorem map_eq {α : Type} {f : Intent → α} (h : Twins p q as bs)
    (hf : ∀ i j, Intent.Twin p q i j → f i = f j) : as.map f = bs.map f := by
  rw [← List.filterMap_eq_map]
  exact h.filterMap_eq fun i j hi => congrArg some (hf i j hi)

end Twins

/-- Calls that differ in the parameter that sets a password. -/
structure Batch.Twin (p q : String) (b c : Batch) : Prop where
  first : b.first.Twin p q c.first
  others : Twins p q b.others c.others

namespace Batch.Twin

variable {b c : Batch}

theorem intents (h : b.Twin p q c) : Twins p q b.intents c.intents := .cons h.first h.others

theorem delete (h : b.Twin p q c) : b.request.delete = c.request.delete := by
  dsimp only [Batch.request]
  refine h.intents.filterMap_eq ?_
  rintro i j (h | ⟨field, reason, dependency⟩) <;> rfl

theorem isEmpty_request (h : b.Twin p q c) : b.request.isEmpty = c.request.isEmpty := by
  have hkeys : (Desired.settings b.intents).map (·.1) = (Desired.settings c.intents).map (·.1) :=
    List.forall₂_eq_eq_eq ▸ List.forall₂_map_left_iff.2 (List.forall₂_map_right_iff.2 h.intents.settings)
  have hset : b.request.set.isEmpty = c.request.set.isEmpty :=
    Dict.isEmpty_congr fun key => by
      rw [Batch.request, Batch.request, Dict.mem_keys_ofList, Dict.mem_keys_ofList, hkeys]
  rw [UpdateRequest.isEmpty, UpdateRequest.isEmpty, hset, h.delete]

end Batch.Twin

theorem twins_batches {as bs : List Intent} (h : Twins p q as bs) :
    List.Forall₂ (Batch.Twin p q) (batches as) (batches bs) := by
  induction h with
  | nil => exact .nil
  | @cons i j as bs hi hrest ih =>
    rw [batches, batches]
    generalize batches as = rest, batches bs = rest' at ih
    cases ih with
    | nil => exact .cons ⟨hi, .nil⟩ .nil
    | cons hb hmore =>
      dsimp only
      rw [hi.joins hb.first]
      split
      · exact .cons ⟨hi, hb.intents⟩ hmore
      · exact .cons ⟨hi, .nil⟩ (.cons hb hmore)

/-! ## Progress -/

/-- Steps with what was noted of them. -/
def NotedTwins {α : Type} (p q : String) : List (Intent × α) → List (Intent × α) → Prop :=
  List.Forall₂ fun a b => a.1.Twin p q b.1 ∧ a.2 = b.2

structure Applied.Twin (p q : String) (a b : Applied) : Prop where
  succeeded : Twins p q a.succeeded b.succeeded
  failed : NotedTwins p q a.failed b.failed
  skipped : NotedTwins p q a.skipped b.skipped

/-- How far two runs have come: equally far. -/
structure Progress.Twin (p q : String) (a b : Progress) : Prop where
  identity : a.identity = b.identity
  power : a.power = b.power
  applied : a.applied.Twin p q b.applied
  failures : a.failures = b.failures
  windowFailed : a.windowFailed = b.windowFailed
  configFailed : a.configFailed = b.configFailed
  aborted : a.aborted = b.aborted

theorem Twins.noted {as bs : List Intent} (h : Twins p q as bs) {α : Type} (note : α) :
    NotedTwins p q (as.map fun i => (i, note)) (bs.map fun i => (i, note)) :=
  List.forall₂_map_left_iff.2 (List.forall₂_map_right_iff.2 (h.imp fun _ _ hi => ⟨hi, rfl⟩))

namespace Progress.Twin

variable {a b : Progress} {c e : Batch}

theorem skipReason? (h : a.Twin p q b) {i j : Intent} (hi : i.Twin p q j) :
    a.skipReason? i = b.skipReason? j := by
  have hblocked : a.isBlocked = b.isBlocked := by
    funext dependency
    cases dependency <;> simp [Progress.isBlocked, h.windowFailed, h.configFailed]
  rw [Progress.skipReason?, Progress.skipReason?, h.aborted, hblocked, hi.dependency]

theorem skip (h : a.Twin p q b) (hb : c.Twin p q e) (why : SkipReason) :
    (a.skip c why).Twin p q (b.skip e why) :=
  { h with applied := { h.applied with skipped := List.rel_append h.applied.skipped (hb.intents.noted why) } }

theorem succeed (h : a.Twin p q b) (hb : c.Twin p q e) (identity : Identity) (power : PowerState) :
    (a.succeed c identity power).Twin p q (b.succeed e identity power) :=
  { h with
    identity := rfl
    power := rfl
    applied := { h.applied with succeeded := h.applied.succeeded.append hb.intents } }

theorem fail (h : a.Twin p q b) (hb : c.Twin p q e) (why : Failure) :
    (a.fail c why).Twin p q (b.fail e why) := by
  refine
    { h with
      applied := { h.applied with failed := List.rel_append h.applied.failed (hb.intents.noted why) }
      failures := by rw [Progress.fail, Progress.fail, h.failures]
      windowFailed := ?_
      configFailed := ?_
      aborted := ?_ }
  all_goals
    have hfirst := hb.first
    rw [Progress.fail, Progress.fail]
    generalize c.first = i, e.first = j at hfirst
  · rw [h.windowFailed]
    cases hfirst <;> rfl
  · rw [h.configFailed, hfirst.isConfigChange]
  · cases hfirst <;> rfl

end Progress.Twin

/-! ## Carrying out a plan -/

namespace Reconciler

variable {σ : Type} {r : Reconciler σ} {R : World σ → World σ → Prop} {C : Remote → Prop}
  (ho : r.hypervisor.Oblivious R C)

include ho

theorem alike_actPower (id : Identity) (timeout : Duration) (action : PowerAction) (power : PowerState) :
    (r.actPower id timeout action power).Alike R Eq (r.actPower id timeout action power) := by
  refine (ho.power id r.interval timeout action power).bind fun x y hxy => ?_
  cases hxy
  exact (Steps.Alike.ofExcept_self x.1).bind fun _ _ _ => .pure rfl

/-- A call that does not set the password is one and the same; the one that does is not answered to. -/
theorem alike_act (id : Identity) (power : PowerState) {b c : Batch} (hb : b.Twin p q c) :
    (r.act id power b).Alike R Eq (r.act id power c) := by
  have hupdate : Steps.Alike R Eq
      (do
        let () ← r.hypervisor.callWithin ("update of " ++ id.toText) r.timeouts.request (.update id b.request)
        pure (id, power))
      (do
        let () ← r.hypervisor.callWithin ("update of " ++ id.toText) r.timeouts.request (.update id c.request)
        pure (id, power)) :=
    ((ho.update id hb.isEmpty_request).within _ _).bind fun _ _ _ => .pure rfl
  -- what is done is up to the first step, and only an update says more than that
  have hfirst := hb.first
  rw [act, act]
  generalize b.first = i, c.first = j at hfirst
  cases hfirst with
  | secret field reason dependency => exact hupdate
  | same _ =>
    obtain ⟨op, reason, dependency⟩ := i
    cases op with
    | update field param value => exact hupdate
    | delete param => exact hupdate
    | moveDisk interface datastore deleteOriginal =>
      exact (ho.callWithin _ _ _).bind fun _ _ _ => .pure rfl
    | resizeDisk interface size => exact (ho.callWithin _ _ _).bind fun _ _ _ => .pure rfl
    | migrate node => exact (ho.callWithin _ _ _).bind fun _ _ _ => .pure rfl
    | start => exact alike_actPower ho _ _ _ _
    | shutdown => exact alike_actPower ho _ _ _ _
    | stop => exact alike_actPower ho _ _ _ _
    | reboot => exact alike_actPower ho _ _ _ _

theorem alike_step {a b : Progress} (h : a.Twin p q b) {c e : Batch} (hb : c.Twin p q e) :
    (r.step a c).Alike R (Progress.Twin p q) (r.step b e) := by
  rw [step, step, h.skipReason? hb.first]
  cases b.skipReason? e.first with
  | some why => exact .pure (h.skip hb why)
  | none =>
    dsimp only
    rw [← h.identity, ← h.power]
    refine (alike_act ho a.identity a.power hb).bind_attempt (fun x y hxy => ?_) fun why =>
      .pure (h.fail hb why)
    cases hxy
    exact .pure (h.succeed hb _ _)

theorem alike_runBatches {bs cs : List Batch} (hbs : List.Forall₂ (Batch.Twin p q) bs cs)
    {a b : Progress} (h : a.Twin p q b) :
    (r.runBatches a bs).Alike R (Progress.Twin p q) (r.runBatches b cs) := by
  induction hbs generalizing a b with
  | nil => exact .pure h
  | cons hb hrest ih => exact (alike_step ho h hb).bind fun x y hxy => ih hxy

theorem alike_execute (id : Identity) {a b : Plan} (h : Twins p q a.intents b.intents) (status : Status) :
    (r.execute id a status).Alike R (Progress.Twin p q) (r.execute id b status) :=
  alike_runBatches ho (twins_batches h) ⟨rfl, rfl, ⟨.nil, .nil, .nil⟩, rfl, rfl, rfl, rfl⟩

end Reconciler

/-! ## Requests for new instances -/

namespace Desired

/-- Which parameters collide is not up to their values. -/
theorem alike_addParams {params params' : Dict String} (h : ∀ key, params.contains key = params'.contains key)
    {xs ys : List (String × String)} (hxy : List.Forall₂ (fun a b => a.1 = b.1) xs ys) :
    Except.Alike (fun _ _ => True) (addParams params xs) (addParams params' ys) := by
  induction hxy generalizing params params' with
  | nil => exact .ok trivial
  | @cons x y xs ys hkey hrest ih =>
    obtain ⟨key, value⟩ := x
    obtain ⟨_, value'⟩ := y
    obtain rfl := hkey
    rw [addParams, addParams, h key]
    split
    · exact .error _
    · -- the values differ, but both requests go on naming the same parameters
      refine ih fun k => ?_
      rw [Dict.contains_eq, Dict.contains_eq, Dict.get?_insert, Dict.get?_insert]
      split
      · rfl
      · rw [← Dict.contains_eq, ← Dict.contains_eq, h k]

variable (d : Desired)

theorem twins_cloudInitParams :
    List.Forall₂ (fun a b => a.1 = b.1) (d.withPassword p).cloudInitParams
      (d.withPassword q).cloudInitParams := by
  have hnone (password : String) : Plan.shownPassword none ≠ some password := by simp [Plan.shownPassword]
  have hplan := Plan.twins_planCloudInit d.config.cloudInit .empty (hnone p) (hnone q)
  have hsettings (as bs : List Intent) : settings (as ++ bs) = settings as ++ settings bs :=
    List.filterMap_append
  rw [cloudInitParams, cloudInitParams, hsettings, hsettings]
  refine List.rel_append ?_ hplan.updates.settings
  rw [Desired.withPassword, Desired.withPassword, hplan.attach]
  exact List.forall₂_same.2 fun _ _ => rfl

/-- A new instance is asked for with either password, or with neither. -/
theorem alike_createRequest : Except.Alike (fun a b : CreateRequest => a.kind = b.kind ∧ a.id = b.id)
    (d.withPassword p).createRequest (d.withPassword q).createRequest := by
  have hcommon (password : String) : (d.withPassword password).commonParams = d.commonParams := rfl
  have hhardware (password : String) : (d.withPassword password).vmHardwareParams = d.vmHardwareParams := rfl
  have hmachine (password : String) : (d.withPassword password).vmMachineParams = d.vmMachineParams := rfl
  have hdevices (password : String) : (d.withPassword password).vmDeviceParams = d.vmDeviceParams := rfl
  have hvm : Except.Alike (fun _ _ => True) (d.withPassword p).vmParams (d.withPassword q).vmParams := by
    rw [vmParams, vmParams, hcommon, hcommon, hhardware, hhardware, hmachine, hmachine, hdevices, hdevices]
    exact alike_addParams (fun _ => rfl) d.twins_cloudInitParams
  have hcontainer : Except.Alike (fun _ _ => True) (d.withPassword p).containerParams
      (d.withPassword q).containerParams := by
    rw [containerParams, containerParams]
    dsimp only [Desired.withPassword]
    cases d.system.bind (·.template) with
    | none => exact .error _
    | some template => exact .ok trivial
  have hkind (password : String) : (d.withPassword password).kind = d.kind := rfl
  rw [createRequest, createRequest]
  refine Except.Alike.map (Q := fun _ _ => True) ?_ fun _ _ _ => ⟨rfl, rfl⟩
  rw [hkind, hkind]
  cases d.kind with
  | vm => exact hvm
  | container => exact hcontainer

end Desired

/-! ## Passes -/

/-- Reports of passes that differ in the steps that set a password. -/
structure Report.Twin (p q : String) (a b : Report) : Prop where
  identity : a.identity = b.identity
  outcome : a.outcome = b.outcome
  intents : Twins p q a.plan.intents b.plan.intents
  rebootRequired : a.plan.rebootRequired = b.plan.rebootRequired
  applied : a.applied.Twin p q b.applied
  duration : a.duration = b.duration
  failures : a.failures = b.failures
  converged : a.converged = b.converged

/-- What was planned for an instance, if it exists. -/
def PlannedTwins (p q : String) : Option (Observed × PlanOutcome) → Option (Observed × PlanOutcome) → Prop :=
  Option.Rel fun x y => x.1 = y.1 ∧ x.2.Twin p q y.2

theorem Plan.hasChanges_twins {a b : Plan} (h : Twins p q a.intents b.intents) :
    a.hasChanges = b.hasChanges := by
  rw [hasChanges, hasChanges, h.isEmpty]

namespace Reconciler

variable {σ : Type} {r : Reconciler σ} {R : World σ → World σ → Prop}
  (ho : r.hypervisor.Oblivious R (Remote.Hides p q)) {doc : Document} {policy : Policy} {d : Desired}

include ho

theorem alike_read (id : Identity) :
    (r.read id).Alike R (fun a b => a = b ∧ ∃ remote status,
      remote.observe id status = .ok a ∧ Remote.Hides p q remote) (r.read id) := by
  refine (ho.configuration id).bind fun remote _ hremote => ?_
  obtain ⟨rfl, hhides⟩ := hremote
  refine (ho.same (.status id)).bind fun status _ hstatus => ?_
  cases hstatus
  cases hobserve : remote.observe id status with
  | error why => exact .throw why
  | ok observed => exact .pure ⟨rfl, remote, status, hobserve, hhides⟩

variable (hd : doc.desired policy = .ok d)

include hd

theorem alike_plan (id : Identity) (copied : Bool) :
    (r.plan (d.withPassword p) id copied).Alike R (PlannedTwins p q) (r.plan (d.withPassword q) id copied) := by
  have hread : (r.read? id).Alike R (fun x y => x = y ∧ ∀ o ∈ x, ∃ remote status,
      remote.observe id status = .ok o ∧ Remote.Hides p q remote) (r.read? id) := by
    refine (alike_read ho id).bind_attempt (fun a b hab => ?_) fun why => ?_
    · obtain ⟨rfl, hread⟩ := hab
      exact .pure ⟨rfl, by simpa using hread⟩
    · dsimp only
      split
      · exact .pure ⟨rfl, by simp⟩
      · exact .throw why
  refine hread.bind fun x y hxy => ?_
  obtain ⟨rfl, hread⟩ := hxy
  refine .pure ?_
  cases x with
  | none => exact .none
  | some observed =>
    obtain ⟨remote, status, hobserve, hp, hq⟩ := hread observed rfl
    exact .some ⟨rfl, Plan.twin_planPass hd hobserve hp hq copied⟩

theorem alike_confirm (id : Identity) (copied : Bool) :
    (r.confirm (d.withPassword p) id copied).Alike R Eq (r.confirm (d.withPassword q) id copied) := by
  refine (alike_plan ho hd id copied).bind_attempt (fun x y hxy => ?_) fun why => .pure rfl
  cases hxy with
  | none => exact .pure rfl
  | some h => exact .pure (by rw [Plan.hasChanges_twins h.2.intents])

theorem alike_carryOut (observed : Observed) (copied : Bool) {a b : PlanOutcome} (h : a.Twin p q b) :
    (r.carryOut (d.withPassword p) observed copied a).Alike R (Report.Twin p q)
      (r.carryOut (d.withPassword q) observed copied b) := by
  refine Steps.Alike.now.bind fun start _ hstart => ?_
  cases hstart
  refine (alike_execute ho observed.identity h.intents observed.status).bind fun x y hdone => ?_
  refine Steps.Alike.now.bind fun finish _ hfinish => ?_
  cases hfinish
  have hfailures : b.failures ++ y.failures = a.failures ++ x.failures := by rw [h.failures, hdone.failures]
  have hreport (converged : Bool) (more : List Failure) : Report.Twin p q
      ⟨x.identity, .applied, a.plan, x.applied, finish - start, a.failures ++ x.failures ++ more, converged⟩
      ⟨y.identity, .applied, b.plan, y.applied, finish - start, a.failures ++ x.failures ++ more, converged⟩ :=
    ⟨hdone.identity, rfl, h.intents, h.rebootRequired, hdone.applied, rfl, rfl, rfl⟩
  dsimp only
  rw [hfailures, ← hdone.identity]
  split
  · refine (alike_confirm ho hd x.identity copied).bind fun result _ hresult => ?_
    cases hresult
    exact .pure (hdone.identity ▸ hreport _ _)
  · exact .pure (hdone.identity ▸ hreport _ _)

theorem alike_pass (id : Identity) (copied : Bool) :
    (r.pass (d.withPassword p) id copied).Alike R (Report.Twin p q)
      (r.pass (d.withPassword q) id copied) := by
  refine (alike_plan ho hd id copied).bind fun x y htwin => ?_
  cases htwin with
  | none => exact .pure ⟨rfl, rfl, .nil, rfl, ⟨.nil, .nil, .nil⟩, rfl, rfl, rfl⟩
  | @some x y h =>
    obtain ⟨observed, a⟩ := x
    obtain ⟨_, b⟩ := y
    obtain ⟨rfl, h⟩ := h
    dsimp only
    rw [← Plan.hasChanges_twins h.intents]
    split
    · exact alike_carryOut ho hd observed copied h
    · refine .pure ⟨rfl, rfl, h.intents, h.rebootRequired, ⟨.nil, .nil, .nil⟩, rfl, h.failures, ?_⟩
      rw [PlanOutcome.isClean, PlanOutcome.isClean, h.failures]

omit hd in
theorem alike_copy (source : Identity) (request : CloneRequest) (attempts : UInt32) :
    (r.copy source request attempts).Alike R Eq (r.copy source request attempts) := by
  refine (ho.callWithin _ _ (.clone source request attempts)).bind fun newId _ hid => ?_
  cases hid
  exact (ho.waitFor _ _ _).bind fun _ _ _ => .pure rfl

omit hd in
theorem alike_provision :
    (r.provision (d.withPassword p)).Alike R Eq (r.provision (d.withPassword q)) := by
  have hclone (password : String) : (d.withPassword password).clone = d.clone := rfl
  have hrequest (password : String) : (d.withPassword password).cloneRequest? = d.cloneRequest? := rfl
  rw [provision, provision, hclone, hclone, hrequest, hrequest, Desired.cloneRequest?]
  cases d.clone with
  | some clone => exact alike_copy ho ⟨clone.node.getD d.node, clone.id, d.kind⟩ _ _
  | none =>
    refine (Steps.Alike.ofExcept d.alike_createRequest).bind fun a b hab => ?_
    refine ((ho.create d.node hab.1 hab.2).within _ _).bind fun newId _ hid => ?_
    cases hid
    exact .pure rfl

theorem alike_create :
    (r.create (d.withPassword p)).Alike R (Report.Twin p q) (r.create (d.withPassword q)) := by
  refine (alike_provision ho).bind fun id _ hid => ?_
  cases hid
  exact (alike_pass ho hd id _).bind fun x y h => .pure { h with outcome := rfl }

/-- Whole runs for two passwords, neither of which is ever reported, end alike. -/
theorem alike_apply :
    (r.apply (d.withPassword p)).Alike R (Report.Twin p q) (r.apply (d.withPassword q)) := by
  have hdeclared : (r.declared? d).Alike R Eq (r.declared? d) := by
    rw [declared?]
    cases d.id with
    | none => exact .pure rfl
    | some n =>
      refine (ho.same (.status (d.identity n))).bind_attempt (fun _ _ _ => .pure rfl) fun why => ?_
      dsimp only
      split
      · exact .pure rfl
      · exact .throw why
  refine hdeclared.bind fun x y hxy => ?_
  cases hxy
  cases x with
  | none => exact alike_create ho hd
  | some id => exact alike_pass ho hd id _

end Reconciler

end Steward
