/-
Documents that differ in nothing but the password of the account. They are accepted or refused alike, and what
is planned for them differs in one step at most, which sets the password, unless the hypervisor reports one of
the two passwords in plain text.
-/
import Mathlib
import Steward.Plan.Batch
import Steward.Proofs.SlotConflict

namespace Steward

/-! ## Documents with a password -/

def Account.withPassword (a : Account) (password : String) : Account := { a with password := some password }

def CloudInit.withPassword (c : CloudInit) (password : String) : CloudInit :=
  { c with account := c.account.map fun a => a.withPassword password }

def Desired.withPassword (d : Desired) (password : String) : Desired :=
  { d with config := { d.config with cloudInit := d.config.cloudInit.map fun c => c.withPassword password } }

def Document.InitBlock.withPassword (b : Document.InitBlock) (password : String) : Document.InitBlock :=
  { b with account := b.account.map fun a => a.withPassword password }

/-- A document with another password in its account, if it has an account. -/
def Document.withPassword (doc : Document) (password : String) : Document :=
  { doc with init := doc.init.map fun b => b.withPassword password }

namespace Document

variable {doc : Document} {policy : Policy} {password : String}

theorem InitBlock.toCloudInit_withPassword (b : InitBlock) (store : String) (slot : Option String) :
    (b.withPassword password).toCloudInit store slot = (b.toCloudInit store slot).withPassword password := by
  cases hb : b.account <;>
    simp [InitBlock.toCloudInit, InitBlock.withPassword, CloudInit.withPassword, Account.withPassword, hb]

theorem cloudInitOf_withPassword (disks : Dict Disk) :
    (doc.withPassword password).cloudInitOf policy disks =
      (doc.cloudInitOf policy disks).map fun c => c.map fun c => c.withPassword password := by
  rw [cloudInitOf, cloudInitOf, withPassword]
  cases doc.init with
  | none => rfl
  | some b =>
    have hname : ((b.withPassword password).account.bind (·.name)) = b.account.bind (·.name) := by
      rw [InitBlock.withPassword]
      cases b.account <;> rfl
    cases doc.kind with
    | vm =>
      dsimp only [Option.map_some]
      rw [vmCloudInit, vmCloudInit, InitBlock.toCloudInit_withPassword]
      dsimp only [InitBlock.withPassword]
      cases b.interface.forM (checkCloudInitSlot disks) <;> rfl
    | container =>
      dsimp only [Option.map_some]
      have hinterface : (b.withPassword password).interface = b.interface := rfl
      have hdatastore : (b.withPassword password).datastore = b.datastore := rfl
      rw [containerCloudInit, containerCloudInit, InitBlock.toCloudInit_withPassword, hname, hinterface, hdatastore]
      split_ifs <;> rfl

/-- The password decides nothing about a document. -/
theorem desired_withPassword : (doc.withPassword password).desired policy =
    (doc.desired policy).map fun d => d.withPassword password := by
  change _ = (fun d : Desired => d.withPassword password) <$> doc.desired policy
  rw [desired, desired]
  simp only [map_bind]
  refine bind_congr fun _ => bind_congr fun _ => bind_congr fun system => bind_congr fun disks =>
    bind_congr fun nics => ?_
  rw [cloudInitOf_withPassword]
  cases doc.cloudInitOf policy disks <;> rfl

end Document

/-! ## Steps that differ in a password -/

/-- Steps in runs with the passwords `p` and `q`: one and the same that does not touch the password, or each
run's own that sets it. -/
inductive Intent.Twin (p q : String) : Intent → Intent → Prop
  | same {i : Intent} (h : i.op.param? ≠ some "cipassword") : Twin p q i i
  | secret (field : String) (reason : Reason) (dependency : Dependency) :
    Twin p q ⟨.update field "cipassword" p, reason, dependency⟩
      ⟨.update field "cipassword" q, reason, dependency⟩

/-- Lists of steps that are related one by one. -/
def Twins (p q : String) : List Intent → List Intent → Prop := List.Forall₂ (Intent.Twin p q)

variable {p q : String}

namespace Twins

variable {as bs as' bs' : List Intent}

theorem same (h : ∀ i ∈ as, i.op.param? ≠ some "cipassword") : Twins p q as as :=
  List.forall₂_same.2 fun i hi => .same (h i hi)

theorem append (ha : Twins p q as as') (hb : Twins p q bs bs') : Twins p q (as ++ bs) (as' ++ bs') :=
  List.rel_append ha hb

theorem isEmpty (h : Twins p q as bs) : as.isEmpty = bs.isEmpty := by
  cases h <;> rfl

end Twins

namespace Plan

/-! ## First-boot settings -/

/-- A password that is not what is reported counts as settled only where the hypervisor hides what it has. -/
theorem passwordSettled_eq {password : String} {found : Option String} (h : found ≠ some password) :
    passwordSettled (some password) found = (found == some CloudInit.maskedPassword) := by
  cases found with
  | none => rfl
  | some shown =>
    have hne : (some password == some shown) = false := beq_eq_false_iff_ne.2 (Ne.symm h)
    rw [passwordSettled, hne, Bool.or_false]
    rfl

theorem twins_password (field : String) {found : Option String} (hp : found ≠ some p) (hq : found ≠ some q) :
    Twins p q (if passwordSettled (some p) found then [] else setOrDelete field "cipassword" (some p) found)
      (if passwordSettled (some q) found then [] else setOrDelete field "cipassword" (some q) found) := by
  rw [passwordSettled_eq hp, passwordSettled_eq hq, setOrDelete, if_neg (Ne.symm hp), setOrDelete,
    if_neg (Ne.symm hq)]
  split
  · exact .nil
  · exact .cons (.secret _ _ _) .nil

theorem twins_setOrDelete {field param : String} (h : param ≠ "cipassword") (want found : Option String) :
    Twins p q (setOrDelete field param want found) (setOrDelete field param want found) :=
  .same fun i hi hparam => h (List.mem_singleton.1
    ((touched_setOrDelete field param want found).subset (mem_touched.2 ⟨i, hi, hparam⟩))).symm

theorem twins_accountIntents (want : Account) {found : Option Account}
    (hp : found.bind (·.password) ≠ some p) (hq : found.bind (·.password) ≠ some q) :
    Twins p q (accountIntents (want.withPassword p) found) (accountIntents (want.withPassword q) found) := by
  have hfound : found.bind (·.password) = (found.getD ⟨none, none, []⟩).password := by cases found <;> rfl
  rw [hfound] at hp hq
  exact ((twins_setOrDelete (by decide) _ _).append (twins_password _ hp hq)).append
    (twins_setOrDelete (by decide) _ _)

/-- What the hypervisor reports of the account's password. -/
def shownPassword (found : Option CloudInit) : Option String := (found.bind (·.account)).bind (·.password)

variable {found : Option CloudInit}

theorem twins_resolverIntents (want : Resolver) (found : Option Resolver) :
    Twins p q (resolverIntents want found) (resolverIntents want found) :=
  (twins_setOrDelete (by decide) _ _).append (twins_setOrDelete (by decide) _ _)

theorem twins_cloudInitUpdates (want : CloudInit) (hp : shownPassword found ≠ some p)
    (hq : shownPassword found ≠ some q) :
    Twins p q (cloudInitUpdates (want.withPassword p) found)
      (cloudInitUpdates (want.withPassword q) found) := by
  rw [cloudInitUpdates, cloudInitUpdates]
  refine (Twins.append ?_ ?_).append ?_
  · cases haccount : want.account with
    | none =>
      rw [CloudInit.withPassword, CloudInit.withPassword, haccount]
      exact .nil
    | some account =>
      rw [CloudInit.withPassword, CloudInit.withPassword, haccount]
      exact twins_accountIntents account hp hq
  · dsimp only [CloudInit.withPassword]
    cases want.resolver with
    | none => exact .nil
    | some resolver => exact twins_resolverIntents _ _
  · refine .same fun i hi hparam => ?_
    have hmem := (touched_ipConfigIntents _ _).subset (mem_touched.2 ⟨i, hi, hparam⟩)
    obtain ⟨n, -, hn⟩ := List.mem_map.1 hmem
    exact absurd (hn ▸ take_ipconfigSlot n) (by decide)

/-- Plans of first-boot settings that differ in the setting of a password. -/
structure CloudInitTwins (p q : String) (a b : CloudInitPlan) : Prop where
  relocation : a.relocation = b.relocation
  detach : a.detach = b.detach
  attach : a.attach = b.attach
  updates : Twins p q a.updates b.updates
  rebootRequired : a.rebootRequired = b.rebootRequired

theorem twins_planCloudInit (want : Option CloudInit) (occupied : NameSet) (hp : shownPassword found ≠ some p)
    (hq : shownPassword found ≠ some q) :
    CloudInitTwins p q (planCloudInit (want.map fun c => c.withPassword p) found occupied)
      (planCloudInit (want.map fun c => c.withPassword q) found occupied) := by
  cases want with
  | none => exact ⟨rfl, rfl, rfl, .nil, rfl⟩
  | some want =>
    have hupdates := twins_cloudInitUpdates want hp hq
    refine ⟨rfl, rfl, rfl, hupdates, ?_⟩
    dsimp only [planCloudInit, Option.map_some]
    rw [hupdates.isEmpty]
    rfl

/-- A container's account is not compared, only its resolver. -/
theorem twins_planContainerResolver (want : Option CloudInit) :
    CloudInitTwins p q (planContainerResolver (want.map fun c => c.withPassword p) found)
      (planContainerResolver (want.map fun c => c.withPassword q) found) := by
  have hresolver (password : String) :
      (want.map fun c => c.withPassword password).bind (·.resolver) = want.bind (·.resolver) := by
    cases want <;> rfl
  rw [planContainerResolver, planContainerResolver, hresolver p, hresolver q]
  refine ⟨rfl, rfl, rfl, ?_, rfl⟩
  cases want.bind (·.resolver) with
  | none => exact .nil
  | some resolver => exact twins_resolverIntents _ _

/-! ## The whole pass -/

/-- The order of a pass is that of its parts, and whether a stopped window opens is not up to the password. -/
theorem twins_schedule {s : ScheduleInput} {c : CloudInitPlan} (hc : CloudInitTwins p q s.cloudInit c)
    (hdrive : ∀ i, i ∈ s.cloudInit.detach ∨ i ∈ s.cloudInit.attach → i.op.param? ≠ some "cipassword")
    (hconfig : ∀ i ∈ s.config, i.op.param? ≠ some "cipassword")
    (hdisks : ∀ i, i ∈ s.disks.updates ∨ i ∈ s.disks.moves ∨ i ∈ s.disks.resizes →
      i.op.param? ≠ some "cipassword") :
    Twins p q (schedule s).intents (schedule { s with cloudInit := c }).intents := by
  -- of the first-boot plan the order of a pass reads whether the drive is attached anew, and nothing else
  set s' : ScheduleInput := { s with cloudInit := c }
  have hwindow : s'.windowOpen = s.windowOpen := by
    rw [ScheduleInput.windowOpen, ScheduleInput.windowOpen, hc.relocation]
  have hin : s'.inWindow = s.inWindow := by
    funext i
    rw [ScheduleInput.inWindow, ScheduleInput.inWindow, ScheduleInput.windowDependency,
      ScheduleInput.windowDependency, hwindow]
  have hopening : s'.opening = s.opening := by rw [ScheduleInput.opening, ScheduleInput.opening, hwindow]
  have halignment : s'.alignment = s.alignment := by
    rw [ScheduleInput.alignment, ScheduleInput.alignment, hwindow]
  have hrestart : s'.restart = s.restart := by rw [ScheduleInput.restart, ScheduleInput.restart, hwindow]
  have hmoved {is : List Intent} (h : ∀ i ∈ is, i.op.param? ≠ some "cipassword") :
      Twins p q (is.map s.inWindow) (is.map s.inWindow) :=
    .same (List.forall_mem_map.2 h)
  have haround {is : List Intent}
      (h : ∀ i ∈ is, i ∈ s.migration ++ s.opening ∨ i ∈ s.alignment ++ s.restart) : Twins p q is is :=
    .same fun i hi => by simp [param?_around_changes (h i hi)]
  rw [intents_schedule, intents_schedule, hopening, halignment, hrestart]
  refine (Twins.append (haround fun i hi => .inl hi) ?_).append (haround fun i hi => .inr hi)
  rw [ScheduleInput.changes, ScheduleInput.changes, hin, ← hc.detach, ← hc.attach]
  have hdetach := hmoved fun i hi => hdrive i (.inl hi)
  have hattach := hmoved fun i hi => hdrive i (.inr (Option.mem_toList.1 hi))
  have hupdates : Twins p q s.disks.updates s.disks.updates := .same fun i hi => hdisks i (.inl hi)
  have hmoves := hmoved fun i hi => hdisks i (.inr (.inl hi))
  have hresizes : Twins p q s.disks.resizes s.disks.resizes := .same fun i hi => hdisks i (.inr (.inr hi))
  exact (((((hdetach.append hattach).append hc.updates).append (.same hconfig)).append hupdates).append
    hmoves).append hresizes

end Plan

/-- Outcomes of planning that differ in the setting of a password. -/
structure PlanOutcome.Twin (p q : String) (a b : PlanOutcome) : Prop where
  intents : Twins p q a.plan.intents b.plan.intents
  rebootRequired : a.plan.rebootRequired = b.plan.rebootRequired
  failures : a.failures = b.failures

namespace Plan

variable {doc : Document} {policy : Policy} {d : Desired} {remote : Remote} {identity : Identity}
  {status : Status} {observed : Observed} {password : String}

/-- The account is no part of the comparison. -/
theorem passDiff_withPassword (copied : Bool) :
    passDiff (d.withPassword password) observed copied = passDiff d observed copied := by
  have hslots (ctx : DiffContext) :
      slotRules ctx (d.withPassword password).config observed.config =
        slotRules ctx d.config observed.config := by
    have haddresses : ((d.config.cloudInit.map fun c => c.withPassword password).map (·.ipConfigs)) =
        d.config.cloudInit.map (·.ipConfigs) := by
      rw [Option.map_map]
      rfl
    rw [slotRules, slotRules, Desired.withPassword, haddresses]
  have hnetworks (ctx : DiffContext) :
      networkIntents ctx (d.withPassword password).config observed.config =
        networkIntents ctx d.config observed.config := by
    rw [networkIntents, networkIntents, hslots]
    rfl
  rw [passDiff, passDiff, diffConfig, diffConfig, hnetworks]
  rfl

theorem shownPassword_observed (ho : remote.observe identity status = .ok observed)
    (h : remote.text? "cipassword" ≠ some password) :
    shownPassword observed.config.cloudInit ≠ some password := by
  intro hshown
  obtain ⟨account, haccount, hpassword⟩ := Option.bind_eq_some_iff.1 hshown
  obtain ⟨found, hfound, hreported⟩ := Option.bind_eq_some_iff.1 haccount
  cases hk : identity.kind with
  | vm =>
    obtain ⟨drives, firmware, -, -, -, rfl⟩ := (Remote.observe_vm_eq_ok_iff hk).1 ho
    obtain ⟨drive, -, rfl⟩ := Option.map_eq_some_iff.1 hfound
    have hread : remote.account = some account := hreported
    rw [Remote.account] at hread
    split at hread
    · cases hread
      exact h hpassword
    · cases hread
  | container =>
    obtain ⟨root, -, -, rfl⟩ := (Remote.observe_container_eq_ok_iff hk).1 ho
    cases hfound
    cases hreported

theorem password_not_mem_disks (hd : doc.desired policy = .ok d) : "cipassword" ∉ d.config.disks.keys := by
  intro h
  cases hk : d.kind with
  | vm => exact absurd (isDriveSlot_of_disks hd hk h) (by decide)
  | container =>
    obtain ⟨disk, hdisk⟩ := Option.isSome_iff_exists.1 (Dict.mem_keys_iff.1 h)
    exact absurd ((Document.disks_spec hd hdisk).2.2.1 hk) (by decide)

theorem password_not_mem_diffParams (kind : Kind) : "cipassword" ∉ diffParams kind := by
  cases kind <;> decide +kernel

theorem twins_passCloudInit (ho : remote.observe identity status = .ok observed)
    (hp : remote.text? "cipassword" ≠ some p) (hq : remote.text? "cipassword" ≠ some q) :
    CloudInitTwins p q (passCloudInit (d.withPassword p) observed)
      (passCloudInit (d.withPassword q) observed) := by
  rw [passCloudInit, passCloudInit]
  cases observed.identity.kind with
  | vm => exact twins_planCloudInit _ _ (shownPassword_observed ho hp) (shownPassword_observed ho hq)
  | container => exact twins_planContainerResolver _

/-- The drive is attached in a slot of a drive, and leaves one. -/
theorem param?_drive (hd : doc.desired policy = .ok d) (ho : remote.observe identity status = .ok observed)
    {i : Intent} (h : i ∈ (passCloudInit d observed).detach ∨ i ∈ (passCloudInit d observed).attach) :
    i.op.param? ≠ some "cipassword" :=
  fun hparam => (by decide : ¬IsDriveSlot "cipassword") (isDriveSlot_of_relocation hd ho h hparam)

/-- What is planned for two passwords, neither of which is reported, differs in their setting only. -/
theorem twin_planPass (hd : doc.desired policy = .ok d) (ho : remote.observe identity status = .ok observed)
    (hp : remote.text? "cipassword" ≠ some p) (hq : remote.text? "cipassword" ≠ some q) (copied : Bool) :
    (planPass (d.withPassword p) observed copied).Twin p q (planPass (d.withPassword q) observed copied) := by
  have hcloud := twins_passCloudInit (d := d) ho hp hq
  have hd' : (doc.withPassword p).desired policy = .ok (d.withPassword p) := by
    rw [Document.desired_withPassword, hd]
    rfl
  have hinput : passInput (d.withPassword q) observed copied =
      { passInput (d.withPassword p) observed copied with
        cloudInit := passCloudInit (d.withPassword q) observed } := by
    rw [passInput, passInput, passDiff_withPassword, passDiff_withPassword, ← hcloud.rebootRequired]
    rfl
  refine ⟨?_, ?_, ?_⟩
  · rw [planPass, planPass, hinput]
    refine twins_schedule hcloud (fun i hmem => param?_drive hd' ho hmem) (fun i hmem hparam => ?_)
      fun i hmem hparam => ?_
    · exact password_not_mem_diffParams _
        ((touched_passDiff hd' copied ho).subset (mem_touched.2 ⟨i, hmem, hparam⟩))
    · rcases hmem with hmem | hmem
      · exact password_not_mem_disks hd' ((touched_planDisks _ _ _).subset (mem_touched.2 ⟨i, hmem, hparam⟩))
      · rw [param?_planDisks hmem] at hparam
        cases hparam
  · rw [planPass, planPass, hinput]
    rfl
  · rw [planPass, planPass, passDiff_withPassword, passDiff_withPassword]
    rfl

end Plan

end Steward
