/-
Batches and single steps. Over a hypervisor that stores what it is sent, a plan leaves the same whether its
changes are sent in batches or each in an update of its own, if nothing fails (`execute_oneByOne`). What is
between the changes, power actions and the waiting for them included, is done at the same place in both runs
and finds the same configuration.
-/
import Mathlib
import Steward.Proofs.Batching
import Steward.Proofs.CallsMade
import Steward.Proofs.Effects

namespace Steward

variable {σ ρ : Type}

/-! ## Steps in calls of their own -/

/-- A step in a call of its own. -/
def Intent.alone (i : Intent) : Batch := ⟨i, []⟩

theorem Intent.separate_alone (i : Intent) : Separate i.alone.intents := by
  intro param hdeleted hset
  obtain ⟨j, hj, hdelete⟩ := mem_deletedParams.1 hdeleted
  obtain ⟨k, hk, field, value, hupdate⟩ := mem_setParams.1 hset
  rw [List.mem_singleton.1 hj] at hdelete
  rw [List.mem_singleton.1 hk, hdelete] at hupdate
  cases hupdate

/-! ## Hypervisors that store what they are sent -/

/-- What a hypervisor keeps: the configurations of instances, and all else that its answers depend on. -/
structure Kept (ρ : Type) where
  config : Identity → Remote
  rest : ρ

namespace Kept

/-- The configuration of one instance replaced. -/
def write (k : Kept ρ) (id : Identity) (remote : Remote) : Kept ρ :=
  { k with config := Function.update k.config id remote }

@[simp] theorem config_write (k : Kept ρ) (id : Identity) (remote : Remote) :
    (k.write id remote).config id = remote := Function.update_self ..

@[simp] theorem write_write (k : Kept ρ) (id : Identity) (a b : Remote) :
    (k.write id a).write id b = k.write id b := by
  simp [write]

@[simp] theorem write_config (k : Kept ρ) (id : Identity) : k.write id (k.config id) = k := by
  simp [write]

end Kept

namespace Hypervisor

/-- A hypervisor that removes and stores what an update says and does nothing else then. Of its state
`kept` is what counts: an answer and what it leaves depend on nothing else, and a status that cannot be read
is no change. -/
structure Verbatim (h : Hypervisor σ) (kept : σ → Kept ρ) : Prop where
  update {id : Identity} {request : UpdateRequest} {s m : σ} {a : Unit} :
    h.Answers (.update id request) s a m →
      kept m = (kept s).write id (request.applyTo ((kept s).config id))
  answer {c : Call} {s s' m m' : σ} {a a' : c.Answer} :
    h.Answers c s a m → h.Answers c s' a' m' → kept s = kept s' → a = a' ∧ kept m = kept m'
  refusal {id : Identity} {s m : σ} : h.Refuses (.status id) s m → kept m = kept s

namespace Verbatim

variable {h : Hypervisor σ} {kept : σ → Kept ρ} {id : Identity} {power : PowerState} {timeouts : Timeouts}
  {s s' n n' : σ}

/-- Waiting leaves the same, however often it reads. -/
theorem reaches (hv : h.Verbatim kept) {goal : Goal} (hn : h.Reaches id goal s n)
    (hn' : h.Reaches id goal s' n') (hs : kept s = kept s') : kept n = kept n' := by
  -- The readings that are answered show the same in both; those that are not change nothing.
  induction hn generalizing s' with
  | shown hstatus hgoal =>
    induction hn' with
    | shown hstatus' _ => exact (hv.answer hstatus hstatus' hs).2
    | again hstatus' hgoal' _ _ =>
      rw [(hv.answer hstatus hstatus' hs).1, hgoal'] at hgoal
      cases hgoal
    | missed hrefused _ ih => exact ih (hs.trans (hv.refusal hrefused).symm)
  | again hstatus hgoal _ ih =>
    induction hn' with
    | shown hstatus' hgoal' =>
      rw [(hv.answer hstatus hstatus' hs).1, hgoal'] at hgoal
      cases hgoal
    | again hstatus' _ hrest' _ => exact ih hrest' (hv.answer hstatus hstatus' hs).2
    | missed hrefused _ ih' => exact ih' ih (hs.trans (hv.refusal hrefused).symm)
  | missed hrefused _ ih => exact ih hn' ((hv.refusal hrefused).trans hs)

theorem carries (hv : h.Verbatim kept) {c : Call} {target : Option RunState} (hn : h.Carries id c target s n)
    (hn' : h.Carries id c target s' n') (hs : kept s = kept s') : kept n = kept n' := by
  obtain ⟨a, m, hm, hrest⟩ := hn
  obtain ⟨a', m', hm', hrest'⟩ := hn'
  have hkept := (hv.answer hm hm' hs).2
  cases target with
  | none => rwa [show n = m from hrest, show n' = m' from hrest']
  | some state => exact hv.reaches hrest hrest' hkept

theorem leads (hv : h.Verbatim kept) {b : Batch} (hn : h.Leads timeouts b id power s n)
    (hn' : h.Leads timeouts b id power s' n') (hs : kept s = kept s') : kept n = kept n' := by
  unfold Leads at hn hn'
  split at hn
  · rename_i hcarrier
    rw [hcarrier] at hn'
    rw [hn, show n' = s' from hn', hs]
  · rename_i c hcarrier
    rw [hcarrier] at hn'
    exact hv.carries hn hn' hs

/-- A batch of changes is stored by one update. -/
theorem leads_change (hv : h.Verbatim kept) {b : Batch} (hb : b.first.op.isConfigChange = true)
    (hseparate : Separate b.intents) (hn : h.Leads timeouts b id power s n) :
    kept n = (kept s).write id (((kept s).config id).applyAll b.intents) ∧
      b.first.op.identityAfter id = id ∧ b.first.op.powerAfter power = power := by
  rw [← Batch.applyTo_request hseparate]
  obtain ⟨⟨op, reason, dependency⟩, others⟩ := b
  cases op with
  | update | delete =>
    obtain ⟨a, m, hm, rfl⟩ := hn
    exact ⟨hv.update hm, rfl, rfl⟩
  | _ => cases hb

/-- Changes that are sent one by one are stored one after the other. -/
theorem completes_alone (hv : h.Verbatim kept) {is : List Intent}
    (hc : ∀ i ∈ is, i.op.isConfigChange = true) {rest : List Batch}
    (hn : h.Completes timeouts (is.map Intent.alone ++ rest) id power s n) :
    ∃ m, kept m = (kept s).write id (((kept s).config id).applyAll is) ∧
      h.Completes timeouts rest id power m n := by
  induction is generalizing s with
  | nil => exact ⟨s, by simp [Remote.applyAll], hn⟩
  | cons i is ih =>
    rw [List.forall_mem_cons] at hc
    obtain ⟨m, hlead, hmore⟩ := hn
    obtain ⟨hkept, hid, hpower⟩ := hv.leads_change hc.1 i.separate_alone hlead
    rw [hid, hpower] at hmore
    obtain ⟨x, hx, hrest⟩ := ih hc.2 hmore
    refine ⟨x, ?_, hrest⟩
    rw [hx, hkept, Kept.config_write, Kept.write_write]
    rfl

/-- Batches and their steps one by one leave the same. -/
theorem completes (hv : h.Verbatim kept) {bs : List Batch} (hu : ∀ b ∈ bs, b.Uniform)
    (halone : ∀ b ∈ bs, b.first.op.isConfigChange = true ∨ b.others = [])
    (hseparate : ∀ b ∈ bs, b.first.op.isConfigChange = true → Separate b.intents)
    (hn : h.Completes timeouts bs id power s n)
    (hn' : h.Completes timeouts ((bs.flatMap Batch.intents).map Intent.alone) id power s' n')
    (hs : kept s = kept s') : kept n = kept n' := by
  induction bs generalizing id power s s' with
  | nil => rwa [show n = s from hn, show n' = s' from hn']
  | cons b rest ih =>
    rw [List.forall_mem_cons] at hu halone hseparate
    rw [List.flatMap_cons, List.map_append] at hn'
    obtain ⟨m, hlead, hrest⟩ := hn
    cases hb : b.first.op.isConfigChange with
    | true =>
      have hchanges : ∀ i ∈ b.intents, i.op.isConfigChange = true := by
        intro i hi
        rcases (hu.1 i hi).2 with rfl | ⟨hi, -⟩
        · exact hb
        · exact hi
      obtain ⟨hkept, hid, hpower⟩ := hv.leads_change hb (hseparate.1 hb) hlead
      obtain ⟨m', hkept', hrest'⟩ := hv.completes_alone hchanges hn'
      rw [hid, hpower] at hrest
      exact ih hu.2 halone.2 hseparate.2 hrest hrest' (by rw [hkept, hkept', hs])
    | false =>
      obtain ⟨first, others⟩ := b
      obtain rfl : others = [] := halone.1.resolve_left (by simp [hb])
      obtain ⟨m', hlead', hrest'⟩ := hn'
      exact ih hu.2 halone.2 hseparate.2 hrest hrest' (hv.leads hlead hlead' hs)

end Verbatim

end Hypervisor

/-! ## Runs -/

/-- A run over a plan that ends without a call that failed, and the state in which it leaves the
hypervisor. -/
def EndsWell (ending : Ending (World σ) Failure Progress) (s : σ) : Prop :=
  ∃ done v u, ending = .done (.ok done) v u ∧ done.failures = [] ∧ v.remote = s

/-- A batch is sent as the request that is made of it. -/
theorem Batch.request_of_carrier {b : Batch} {timeouts : Timeouts} {id other : Identity} {power : PowerState}
    {request : UpdateRequest} (h : b.carrier? timeouts id power = some (.update other request)) :
    request = b.request := by
  unfold carrier? at h
  cases hop : b.first.op with
  | update | delete =>
    rw [hop] at h
    cases h
    rfl
  | moveDisk | resizeDisk | migrate =>
    rw [hop] at h
    cases h
  | start | shutdown | stop | reboot =>
    simp only [hop] at h
    split at h <;> cases h

namespace Reconciler

variable (r : Reconciler σ)

/-- All steps of a plan in their order, each change of the configuration in an update of its own. -/
def executeOneByOne (id : Identity) (plan : Plan) (status : Status) : Steps (World σ) Failure Progress :=
  r.runBatches (.initial id status) (plan.intents.map Intent.alone)

theorem completes_of_endsWell {bs : List Batch} {id : Identity} {status : Status} {deadline : Option Nat}
    {w : World σ} {t : Nat} {n : σ} (h : EndsWell (r.runBatches (.initial id status) bs deadline w t) n) :
    r.hypervisor.Completes r.timeouts bs id (.ofStatus status) w.remote n := by
  obtain ⟨done, v, u, hrun, hnone, rfl⟩ := h
  exact r.leaves_runBatches (.initial id status) bs deadline w.log t _ v u hrun done rfl hnone

/-- Over a hypervisor that stores what it is sent, the plan of a pass leaves the same whether its changes are
sent in batches or one by one, provided that nothing fails. And no request that is sent, whatever comes of
it, sets a parameter that it removes. -/
theorem execute_oneByOne {policy : Policy} {doc : Document} {desired : Desired} {remote : Remote}
    {identity : Identity} {observation : Status} {observed : Observed} (copied : Bool)
    (hd : doc.desired policy = .ok desired) (ho : remote.observe identity observation = .ok observed)
    (id : Identity) (status : Status) :
    let plan := (Plan.planPass desired observed copied).plan
    (∀ (ρ : Type) (kept : σ → Kept ρ), r.hypervisor.Verbatim kept →
      ∀ deadline deadline' w w' t t' n n', kept w.remote = kept w'.remote →
        EndsWell (r.execute id plan status deadline w t) n →
        EndsWell (r.executeOneByOne id plan status deadline' w' t') n' → kept n = kept n') ∧
      ∀ deadline w t, ∃ calls, (r.execute id plan status deadline w t).state.log = calls ++ w.log ∧
        ∀ id request, .update id request ∈ calls → request.Separate := by
  intro plan
  have hseparate := Plan.separate_batches copied hd ho
  constructor
  · intro ρ kept hv deadline deadline' w w' t t' n n' hw hn hn'
    have hbatched := r.completes_of_endsWell hn
    have halone := r.completes_of_endsWell hn'
    rw [← intents_batches plan.intents] at halone
    exact hv.completes (uniform_batches _) (others_batches _) (fun b hb _ => hseparate b hb) hbatched halone hw
  · have hmakes : (r.execute id plan status).Makes
        fun c => ∀ id request, c = .update id request → request.Separate :=
      r.makes_execute id status
        (fun b hb id power c hcarrier other request hc => by
          subst hc
          rw [Batch.request_of_carrier hcarrier]
          exact Batch.separate_request (hseparate b hb))
        (fun id other request hc => by cases hc)
    intro deadline w t
    obtain ⟨calls, hlog, hcalls⟩ := hmakes deadline w t
    exact ⟨calls, hlog, fun id request hmem => hcalls _ hmem id request rfl⟩

end Reconciler

/-- A hypervisor of the simplest kind: it stores what it is sent, at once, and switches instances on and
off. -/
def plainHypervisor : Hypervisor (Kept Status) := fun c s =>
  let reply : Except Failure c.Answer × Kept Status :=
    match c with
    | .configuration id => (.ok (s.config id), s)
    | .status _ => (.ok s.rest, s)
    | .update id request => (.ok (), s.write id (request.applyTo (s.config id)))
    | .start .. | .reboot .. => (.ok (), { s with rest := ⟨.running, none⟩ })
    | .shutdown .. | .stop .. => (.ok (), { s with rest := ⟨.stopped, none⟩ })
    | .moveDisk .. | .resizeDisk .. | .migrate .. => (.ok (), s)
    | .create .. | .clone .. => (.error (.unsupported "no room"), s)
  ⟨.answered 0 reply.1 reply.2, fun _ => s⟩

theorem verbatim_plainHypervisor : plainHypervisor.Verbatim id where
  update := by
    rintro id request s m a ⟨d, h⟩
    cases h
    rfl
  answer := by
    rintro c s s' m m' a a' ⟨d, h⟩ ⟨d', h'⟩ hs
    obtain rfl : s = s' := hs
    rw [h] at h'
    cases h'
    exact ⟨rfl, rfl⟩
  refusal := by
    rintro id s m ⟨d, why, h⟩
    cases h

/-- How a run ended, seen by a test of the state that it leaves. -/
def Ending.endsWell (ending : Ending (World σ) Failure Progress) (test : σ → Bool) : Bool :=
  match ending with
  | .done (.ok progress) v _ => progress.failures.isEmpty && test v.remote
  | _ => false

theorem exists_endsWell (ending : Ending (World σ) Failure Progress) (test : σ → Bool)
    (h : ending.endsWell test = true) : ∃ n, EndsWell ending n ∧ test n = true := by
  unfold Ending.endsWell at h
  split at h
  · rename_i progress v u
    rw [Bool.and_eq_true, List.isEmpty_iff] at h
    exact ⟨v.remote, ⟨progress, v, u, rfl, h.1, rfl⟩, h.2⟩
  · cases h

def plainKeeper : Reconciler (Kept Status) := ⟨plainHypervisor, {}, 0⟩

/-- A world in which the web server runs as it was found. -/
def plainWorld : World (Kept Status) := ⟨⟨fun _ => Plan.webServerFound, ⟨.running, none⟩⟩, []⟩

/-- Whether the server has its name, and nothing is left of the device that was too many. -/
def renamed (s : Kept Status) : Bool :=
  let config := s.config ⟨"pve1", 100, .vm⟩
  Remote.text? config "name" == some "web" && !config.contains "net1"

theorem Reconciler.execute_oneByOne_webServer : ∃ desired observed n n',
    Plan.webServer.desired {} = .ok desired ∧
    Plan.webServerFound.observe ⟨"pve1", 100, .vm⟩ ⟨.running, none⟩ = .ok observed ∧
    plainHypervisor.Verbatim id ∧
    EndsWell (plainKeeper.execute ⟨"pve1", 100, .vm⟩ (Plan.planPass desired observed false).plan
      ⟨.running, none⟩ none plainWorld 0) n ∧
    EndsWell (plainKeeper.executeOneByOne ⟨"pve1", 100, .vm⟩ (Plan.planPass desired observed false).plan
      ⟨.running, none⟩ none plainWorld 0) n' ∧ renamed n = true ∧ n = n' := by
  obtain ⟨desired, hd⟩ : ∃ desired, Plan.webServer.desired {} = .ok desired := ⟨_, rfl⟩
  obtain ⟨observed, ho⟩ : ∃ observed, Plan.webServerFound.observe ⟨"pve1", 100, .vm⟩ ⟨.running, none⟩ =
    .ok observed := ⟨_, rfl⟩
  obtain ⟨n, hn, hrenamed⟩ := exists_endsWell (plainKeeper.execute ⟨"pve1", 100, .vm⟩
    (Plan.planPass desired observed false).plan ⟨.running, none⟩ none plainWorld 0) renamed (by
      cases hd
      cases ho
      decide +kernel)
  obtain ⟨n', hn', -⟩ := exists_endsWell (plainKeeper.executeOneByOne ⟨"pve1", 100, .vm⟩
    (Plan.planPass desired observed false).plan ⟨.running, none⟩ none plainWorld 0) renamed (by
      cases hd
      cases ho
      decide +kernel)
  exact ⟨desired, observed, n, n', hd, ho, verbatim_plainHypervisor, hn, hn', hrenamed,
    (plainKeeper.execute_oneByOne false hd ho _ _).1 _ id verbatim_plainHypervisor _ _ _ _ _ _ _ _ rfl hn hn'⟩

end Steward
