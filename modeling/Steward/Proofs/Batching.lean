/-
Updates that are put together. A batch sets many parameters in one request, which removes first whatever the
order of its steps was. As long as it does not set what it removes, this is as good as the steps one after
the other (`Batch.applyTo_request`), and the batches of a pass never do (`Plan.separate_batches`): steps that
detach a drive stand in batches of their own, and of all other steps that remove something each has its
parameter to itself.
-/
import Mathlib
import Steward.Proofs.StoppedWindow

namespace Steward

/-! ## Requests -/

/-- A configuration after an update: parameters are removed first, then set to their texts. -/
def UpdateRequest.applyTo (request : UpdateRequest) (remote : Remote) : Remote :=
  (request.set.map Json.string).entries.foldl (fun remote e => remote.insert e.1 e.2)
    (request.delete.foldl Dict.erase remote)

theorem UpdateRequest.get?_applyTo (request : UpdateRequest) (remote : Remote) (key : String) :
    (request.applyTo remote).get? key =
      ((request.set.get? key).map Json.string).or
        (if key ∈ request.delete then none else remote.get? key) := by
  have herase (names : List String) : (names.foldl Dict.erase remote).get? key =
      if key ∈ names then none else remote.get? key := by
    induction names generalizing remote with
    | nil => simp
    | cons name names ih =>
      rw [List.foldl_cons, ih, Dict.get?_erase]
      by_cases hname : name = key
      · simp [hname]
      · simp [hname, Ne.symm hname]
  rw [applyTo, Dict.get?_foldl_insert, ← Dict.get?_ofList, Dict.ofList_entries, herase]
  congr 1
  exact lookup?_map _ _ _

/-- The parameters that steps remove. -/
def deletedParams (intents : List Intent) : List String :=
  intents.filterMap fun i =>
    match i.op with
    | .delete param => some param
    | _ => none

theorem mem_deletedParams {intents : List Intent} {param : String} :
    param ∈ deletedParams intents ↔ ∃ i ∈ intents, i.op = .delete param := by
  simp only [deletedParams, List.mem_filterMap]
  refine exists_congr fun i => and_congr_right fun _ => ?_
  cases i.op <;> simp

theorem mem_setParams {intents : List Intent} {param : String} :
    param ∈ setParams intents ↔ ∃ i ∈ intents, ∃ field value, i.op = .update field param value := by
  simp only [setParams, Desired.settings, List.mem_map, List.mem_filterMap]
  constructor
  · rintro ⟨⟨key, value⟩, ⟨i, hi, hsets⟩, rfl⟩
    cases hop : i.op <;> rw [hop] at hsets <;> cases hsets
    exact ⟨i, hi, _, _, hop⟩
  · rintro ⟨i, hi, field, value, hop⟩
    exact ⟨(param, value), ⟨i, hi, by rw [hop]⟩, rfl⟩

/-- No parameter is both set and removed. -/
def Separate (intents : List Intent) : Prop := ∀ param ∈ deletedParams intents, param ∉ setParams intents

theorem deletedParams_cons (i : Intent) (rest : List Intent) :
    deletedParams (i :: rest) = deletedParams [i] ++ deletedParams rest := by
  rw [← List.singleton_append, deletedParams, List.filterMap_append]
  rfl

theorem setParams_cons (i : Intent) (rest : List Intent) :
    setParams (i :: rest) = setParams [i] ++ setParams rest := by
  rw [← List.singleton_append, setParams_append]

/-- What steps set last under a parameter. -/
def setText? (intents : List Intent) (key : String) : Option String :=
  (Dict.ofList (Desired.settings intents)).get? key

theorem setText?_cons (i : Intent) (rest : List Intent) (key : String) :
    setText? (i :: rest) key = (setText? rest key).or (setText? [i] key) := by
  rw [← List.singleton_append, setText?, Desired.settings, List.filterMap_append, Dict.get?_ofList_append]
  rfl

theorem setText?_eq_none_iff {intents : List Intent} {key : String} :
    setText? intents key = none ↔ key ∉ setParams intents := by
  rw [← Option.not_isSome_iff_eq_none, setText?, ← Dict.mem_keys_iff, Dict.mem_keys_ofList, setParams]

namespace Separate

variable {intents : List Intent}

theorem of_cons {i : Intent} (h : Separate (i :: intents)) : Separate intents := by
  intro param hdeleted hset
  refine h param ?_ ?_
  · rw [deletedParams_cons]
    exact List.mem_append_right _ hdeleted
  · rw [setParams_cons]
    exact List.mem_append_right _ hset

/-- Steps that do not set what they remove leave what they set last, and nothing of what they remove. -/
theorem get?_applyAll (h : Separate intents) (remote : Remote) (key : String) :
    (remote.applyAll intents).get? key =
      ((setText? intents key).map Json.string).or
        (if key ∈ deletedParams intents then none else remote.get? key) := by
  induction intents generalizing remote with
  | nil => rfl
  | cons i rest ih =>
    rw [Remote.applyAll, List.foldl_cons, ← Remote.applyAll, ih h.of_cons, Remote.get?_apply, setText?_cons]
    by_cases hkey : i.op.param? = some key
    · rw [if_pos hkey]
      obtain ⟨op, reason, dependency⟩ := i
      cases op with
      | update field param value =>
        obtain rfl : param = key := Option.some.inj hkey
        have hkept : param ∉ deletedParams (⟨.update field param value, reason, dependency⟩ :: rest) :=
          fun hdeleted => h param hdeleted (mem_setParams.2 ⟨_, List.mem_cons_self, field, value, rfl⟩)
        have hset : setText? [⟨.update field param value, reason, dependency⟩] param = some value := by
          simp [setText?, Desired.settings, Dict.get?_ofList, lookup?_cons]
        rw [if_neg hkept, if_neg fun hdeleted => hkept (by
          rw [deletedParams_cons]
          exact List.mem_append_right _ hdeleted), hset]
        cases setText? rest param <;> rfl
      | delete param =>
        obtain rfl : param = key := Option.some.inj hkey
        have hdeleted : param ∈ deletedParams (⟨.delete param, reason, dependency⟩ :: rest) :=
          mem_deletedParams.2 ⟨_, List.mem_cons_self, rfl⟩
        have hnone := setText?_eq_none_iff.2 (h param hdeleted)
        rw [setText?_cons] at hnone
        rw [hnone, if_pos hdeleted, (Option.or_eq_none_iff.1 hnone).1]
        simp [Operation.stored?]
      | _ => cases hkey
    · have hdeleted : key ∈ deletedParams (i :: rest) ↔ key ∈ deletedParams rest := by
        rw [mem_deletedParams, mem_deletedParams, List.exists_mem_cons_iff]
        exact or_iff_right fun hop => hkey (by rw [hop]; rfl)
      have hset : setText? [i] key = none := by
        refine setText?_eq_none_iff.2 fun hset => hkey ?_
        obtain ⟨j, hj, field, value, hop⟩ := mem_setParams.1 hset
        rw [← List.mem_singleton.1 hj, hop]
        rfl
      simp only [hset, hdeleted, if_neg hkey, Option.or_none]

end Separate

/-- A batch that does not set what it removes is as good as its steps one by one. -/
theorem Batch.applyTo_request {b : Batch} (h : Separate b.intents) (remote : Remote) :
    b.request.applyTo remote = remote.applyAll b.intents := by
  ext1 key
  rw [h.get?_applyAll, UpdateRequest.get?_applyTo]
  rfl

/-! ## Batches -/

/-- Whatever holds of single steps, and goes on to hold when a step joins a batch, holds of all batches. -/
theorem forall_mem_batches {P : Batch → Prop} (hsingle : ∀ i, P ⟨i, []⟩)
    (hjoin : ∀ i b, i.joins b.first = true → P b → P ⟨i, b.intents⟩) (is : List Intent) :
    ∀ b ∈ batches is, P b := by
  induction is with
  | nil => simp [batches]
  | cons i rest ih =>
    unfold batches
    cases hrest : batches rest with
    | nil => simpa using hsingle i
    | cons b more =>
      rw [hrest, List.forall_mem_cons] at ih
      dsimp only
      split
      · rename_i hjoins
        exact List.forall_mem_cons.2 ⟨hjoin i b hjoins ih.1, ih.2⟩
      · exact List.forall_mem_cons.2 ⟨hsingle i, List.forall_mem_cons.2 ih⟩

/-- What is no change of the configuration stands alone. -/
theorem others_batches (is : List Intent) :
    ∀ b ∈ batches is, b.first.op.isConfigChange = true ∨ b.others = [] := by
  refine forall_mem_batches (fun i => .inr rfl) (fun i b hjoins _ => .inl ?_) is
  simp only [Intent.joins, Bool.and_eq_true] at hjoins
  exact hjoins.1.1.1

/-- Steps that detach a drive are in one batch with their like only. -/
theorem detach_batches (is : List Intent) :
    ∀ b ∈ batches is, ∀ i ∈ b.intents, i.reason = .cloudInitDetach ↔ b.first.reason = .cloudInitDetach := by
  refine forall_mem_batches (fun i j hj => by rw [List.mem_singleton.1 hj]) (fun i b hjoins hb j hj => ?_) is
  rcases List.mem_cons.1 hj with rfl | hj
  · rfl
  · simp only [Intent.joins, Bool.and_eq_true, beq_iff_eq] at hjoins
    rw [hb j hj, ← beq_iff_eq, ← hjoins.2, beq_iff_eq]

theorem mem_of_mem_batches {is : List Intent} {b : Batch} (hb : b ∈ batches is) {i : Intent}
    (hi : i ∈ b.intents) : i ∈ is := by
  rw [← intents_batches is]
  exact List.mem_flatMap.2 ⟨b, hb, hi⟩

/-- A request that does not set what it removes. -/
def UpdateRequest.Separate (request : UpdateRequest) : Prop :=
  ∀ param ∈ request.delete, param ∉ request.set.keys

theorem Batch.separate_request {b : Batch} (h : Steward.Separate b.intents) : b.request.Separate := by
  intro param hdelete hset
  exact h param hdelete (Dict.mem_keys_ofList.1 hset)

/-! ## The batches of a pass -/

namespace Plan

variable {policy : Policy} {doc : Document} {desired : Desired} {remote : Remote} {identity : Identity}
  {status : Status} {observed : Observed} {copied : Bool}

/-- The parameters of first-boot settings and of the comparison, for so many addresses. -/
def plainParams (kind : Kind) (addresses : Nat) : List String :=
  match kind with
  | .vm => cloudInitParams addresses ++ diffParams .vm
  | .container => ["searchdomain", "nameserver"] ++ diffParams .container

theorem nodup_plainParams (kind : Kind) (n : Nat) : (plainParams kind n).Nodup := by
  cases kind with
  | vm =>
    exact List.Nodup.append (nodup_cloudInitParams n) (nodup_diffParams .vm) (disjoint_cloudInitParams n)
  | container =>
    exact (by decide +kernel : (["searchdomain", "nameserver"] ++ diffParams .container).Nodup)

/-- None of them is the slot of a disk. -/
theorem not_slot_plainParams (kind : Kind) (n : Nat) :
    ∀ param ∈ plainParams kind n, ¬IsDriveSlot param ∧ param ≠ rootSlot := by
  cases kind with
  | vm =>
    refine List.forall_mem_append.2 ⟨fun param hp => ⟨not_isDriveSlot_cloudInitParams n param hp, ?_⟩,
      fun param hp => ⟨not_isDriveSlot_diffParams param hp, ?_⟩⟩
    · rintro rfl
      rcases List.mem_append.1 hp with hp | hp
      · exact absurd hp (by decide)
      · obtain ⟨m, -, hm⟩ := List.mem_map.1 hp
        exact absurd (take_ipconfigSlot m) (by rw [hm]; decide)
    · rintro rfl
      exact absurd hp (by decide +kernel)
  | container =>
    exact (by decide +kernel : ∀ param ∈ ["searchdomain", "nameserver"] ++ diffParams .container,
      ¬IsDriveSlot param ∧ param ≠ rootSlot)

theorem touched_resolverIntents (want : Resolver) (found : Option Resolver) :
    (touched (resolverIntents want found)).Sublist ["searchdomain", "nameserver"] := by
  rw [resolverIntents, touched_append]
  exact (touched_setOrDelete _ _ _ _).append (touched_setOrDelete _ _ _ _)

/-- The steps of a pass that have nothing to do with disks and with the place of the first-boot drive. -/
def plainSteps (desired : Desired) (observed : Observed) (copied : Bool) : List Intent :=
  (passCloudInit desired observed).updates ++ (passDiff desired observed copied).intents

/-- The parameters of first-boot settings, for so many addresses. -/
def initParams (kind : Kind) (addresses : Nat) : List String :=
  match kind with
  | .vm => cloudInitParams addresses
  | .container => ["searchdomain", "nameserver"]

theorem plainParams_eq (kind : Kind) (n : Nat) : plainParams kind n = initParams kind n ++ diffParams kind := by
  cases kind <;> rfl

theorem touched_passCloudInit (desired : Desired) (observed : Observed) :
    ∃ n, (touched (passCloudInit desired observed).updates).Sublist (initParams observed.identity.kind n) := by
  rw [passCloudInit]
  cases observed.identity.kind with
  | vm =>
    cases desired.config.cloudInit with
    | none => exact ⟨0, List.nil_sublist _⟩
    | some want => exact ⟨_, touched_cloudInitUpdates want observed.config.cloudInit⟩
  | container =>
    refine ⟨0, ?_⟩
    dsimp only [planContainerResolver]
    cases desired.config.cloudInit.bind (·.resolver) with
    | none => exact List.nil_sublist _
    | some want => exact touched_resolverIntents _ _

theorem touched_plainSteps (copied : Bool) (hd : doc.desired policy = .ok desired)
    (ho : remote.observe identity status = .ok observed) :
    ∃ n, (touched (plainSteps desired observed copied)).Sublist (plainParams identity.kind n) := by
  obtain ⟨n, hinit⟩ := touched_passCloudInit desired observed
  rw [(Remote.observe_spec ho).1] at hinit
  refine ⟨n, ?_⟩
  rw [plainSteps, touched_append, plainParams_eq]
  exact hinit.append (touched_passDiff hd copied ho)

/-- Each of these steps has its parameter to itself. -/
theorem eq_of_plainSteps (hd : doc.desired policy = .ok desired)
    (ho : remote.observe identity status = .ok observed) {i j : Intent}
    (hi : i ∈ plainSteps desired observed copied) (hj : j ∈ plainSteps desired observed copied)
    {param : String} (hip : i.op.param? = some param) (hjp : j.op.param? = some param) : i = j := by
  obtain ⟨n, hsub⟩ := touched_plainSteps copied hd ho
  have hnodup := (nodup_plainParams identity.kind n).sublist hsub
  rw [touched, List.Nodup, List.pairwise_filterMap] at hnodup
  have hsymm : Std.Symm fun a b : Intent =>
      ∀ x, a.op.param? = some x → ∀ y, b.op.param? = some y → x ≠ y :=
    ⟨fun a b h x hx y hy => (h y hy x hx).symm⟩
  by_contra hne
  exact hnodup.forall hi hj hne param hip param hjp rfl

theorem slot_of_disks (hd : doc.desired policy = .ok desired) {slot : String}
    (h : slot ∈ desired.config.disks.keys) : IsDriveSlot slot ∨ slot = rootSlot := by
  cases hk : desired.kind with
  | vm => exact .inl (isDriveSlot_of_disks hd hk h)
  | container =>
    obtain ⟨disk, hdisk⟩ := Option.isSome_iff_exists.1 (Dict.mem_keys_iff.1 h)
    exact .inr ((Document.disks_spec hd hdisk).2.2.1 hk)

/-- Where the changes of parameters in a pass come from: a drive is detached or attached, a disk is added or
changed, or it is one of the plain steps. -/
theorem change_cases (hd : doc.desired policy = .ok desired)
    (ho : remote.observe identity status = .ok observed) {i : Intent}
    (h : i ∈ (planPass desired observed copied).plan.intents) {param : String}
    (hp : i.op.param? = some param) :
    i.op = .delete param ∧ i.reason = .cloudInitDetach ∨
      (i.op.stored?.isSome = true ∧ i.reason ≠ .cloudInitDetach ∧ (IsDriveSlot param ∨ param = rootSlot)) ∨
      i ∈ plainSteps desired observed copied ∧ i.reason ≠ .cloudInitDetach := by
  have hplain {rest : List Intent} (hrest : Plain rest) (hi : i ∈ rest) : i.reason ≠ .cloudInitDetach := by
    intro hreason
    have := hrest i hi
    simp [Intent.isPlain, hreason] at this
  rcases mem_changes_iff.1 (mem_changes_of_param? h hp) with h | h | h | h | h | h | h
  · obtain ⟨j, hj, rfl⟩ := h
    obtain ⟨slot, rfl, -⟩ := mem_detach_pass hd ho hj
    exact .inl ⟨by rw [← Option.some.inj hp]; rfl, rfl⟩
  · obtain ⟨j, hj, rfl⟩ := h
    obtain ⟨field, slot, value, rfl, hslot⟩ := mem_attach_pass hd ho hj
    obtain rfl : slot = param := Option.some.inj hp
    exact .inr (.inl ⟨rfl, fun h => (by cases h), .inl hslot⟩)
  · exact .inr (.inr ⟨List.mem_append_left _ h, hplain (plain_updates_passCloudInit _ _) h⟩)
  · exact .inr (.inr ⟨List.mem_append_right _ h, hplain (plain_diffConfig _ _ _) h⟩)
  · have hslot := (touched_planDisks _ _ _).subset (mem_touched.2 ⟨i, h, hp⟩)
    refine .inr (.inl ⟨?_, hplain (plain_updates_planDisks _ _ _) h, slot_of_disks hd hslot⟩)
    obtain ⟨field, slot, value, reason, rfl, -⟩ := mem_updates_planDisks h
    rfl
  · obtain ⟨j, hj, rfl⟩ := h
    rw [show (ScheduleInput.inWindow _ j).op = j.op from rfl, param?_planDisks (.inl hj)] at hp
    cases hp
  · rw [param?_planDisks (.inr h)] at hp
    cases hp

/-- No batch of a pass sets a parameter that it removes. -/
theorem separate_batches (copied : Bool) (hd : doc.desired policy = .ok desired)
    (ho : remote.observe identity status = .ok observed) :
    ∀ b ∈ batches (planPass desired observed copied).plan.intents, Separate b.intents := by
  intro b hb param hdeleted hset
  obtain ⟨i, hi, hdelete⟩ := mem_deletedParams.1 hdeleted
  obtain ⟨j, hj, field, value, hupdate⟩ := mem_setParams.1 hset
  have hip : i.op.param? = some param := by rw [hdelete]; rfl
  have hjp : j.op.param? = some param := by rw [hupdate]; rfl
  have hreasons : i.reason = .cloudInitDetach ↔ j.reason = .cloudInitDetach :=
    (detach_batches _ b hb i hi).trans (detach_batches _ b hb j hj).symm
  have hicase := change_cases hd ho (mem_of_mem_batches hb hi) hip
  have hjcase := change_cases hd ho (mem_of_mem_batches hb hj) hjp
  rw [hdelete] at hicase
  rw [hupdate] at hjcase
  rcases hicase with ⟨-, hreason⟩ | ⟨hstored, -⟩ | ⟨hplain, hreason⟩
  · rcases hjcase with ⟨hop, -⟩ | ⟨-, hother, -⟩ | ⟨-, hother⟩
    · cases hop
    · exact hother (hreasons.1 hreason)
    · exact hother (hreasons.1 hreason)
  · cases hstored
  · rcases hjcase with ⟨hop, -⟩ | ⟨-, -, hslot⟩ | ⟨hplain', -⟩
    · cases hop
    · obtain ⟨n, hsub⟩ := touched_plainSteps copied hd ho
      obtain ⟨hdrive, hroot⟩ :=
        not_slot_plainParams identity.kind n param (hsub.subset (mem_touched.2 ⟨i, hplain, hip⟩))
      exact hslot.elim hdrive hroot
    · rw [eq_of_plainSteps hd ho hplain hplain' hip hjp, hupdate] at hdelete
      cases hdelete

end Plan

end Steward
