/-
The power history of a pass. The parts of a pass only change configuration and disks; moving the instance
and switching it on and off is left to the schedule, which puts a few operations around the changes. From
the observed state they lead to the wanted one, and a restart that is owed comes last and only once.
-/
import Mathlib
import Steward.Proofs.SlotConflict

namespace Steward

namespace Operation

/-- The operations that a schedule puts around the changes of a pass. -/
def isFraming : Operation → Bool
  | migrate .. | shutdown | start | reboot => true
  | _ => false

/-- Whether an instance runs after an operation; none if the operation finds it in the wrong state. -/
def runsAfter? (running : Bool) : Operation → Option Bool
  | start => if running then none else some true
  | shutdown | stop => if running then some false else none
  | reboot => if running then some true else none
  | _ => some running

variable {op : Operation}

theorem isFraming_of_not_isLifecycle (h : op.isLifecycle = false) : op.isFraming = false := by
  cases op <;> first | rfl | cases h

/-- Changes are none of the operations around them. -/
theorem not_mem_changes {ops : List Operation} (h : ∀ op ∈ ops, op.isLifecycle = false)
    (hop : op.isFraming = true) : op ∉ ops := fun hmem => by
  rw [isFraming_of_not_isLifecycle (h op hmem)] at hop
  cases hop

theorem runsAfter?_of_not_isLifecycle (h : op.isLifecycle = false) (running : Bool) :
    runsAfter? running op = some running := by
  cases op <;> first | rfl | cases h

theorem foldlM_runsAfter? {ops : List Operation} {running : Bool}
    (h : ∀ op ∈ ops, runsAfter? running op = some running) :
    ops.foldlM runsAfter? running = some running := by
  induction ops with
  | nil => rfl
  | cons op ops ih =>
    obtain ⟨hop, hops⟩ := List.forall_mem_cons.1 h
    rw [List.foldlM_cons, hop]
    exact ih hops

end Operation

/-- An intent without what it depends on. -/
def Intent.bare (i : Intent) : Operation × Reason := (i.op, i.reason)

/-- The operations of a plan in their order. -/
def Plan.operations (p : Plan) : List Operation := p.intents.map Intent.op

/-- Steps that change configuration and disks only. -/
def Work (intents : List Intent) : Prop := ∀ i ∈ intents, i.op.isLifecycle = false

namespace Work

variable {as bs : List Intent}

theorem nil : Work [] := by simp [Work]

theorem append_iff : Work (as ++ bs) ↔ Work as ∧ Work bs := List.forall_mem_append

theorem append (ha : Work as) (hb : Work bs) : Work (as ++ bs) := append_iff.2 ⟨ha, hb⟩

/-- What steps depend on does not matter. -/
theorem iff_bare : Work as ↔ ∀ b ∈ as.map Intent.bare, b.1.isLifecycle = false := by
  simp [Work, Intent.bare]

end Work

/-- A change of the configuration that does not place the first-boot drive. -/
def Intent.isPlain (i : Intent) : Bool :=
  i.op.isConfigChange && i.reason != .cloudInitDetach && i.reason != .cloudInitAttach

def Plain (intents : List Intent) : Prop := ∀ i ∈ intents, i.isPlain = true

namespace Plain

variable {as bs : List Intent}

theorem nil : Plain [] := by simp [Plain]

theorem append (ha : Plain as) (hb : Plain bs) : Plain (as ++ bs) := List.forall_mem_append.2 ⟨ha, hb⟩

theorem flatMap {α : Type} {f : α → List Intent} {l : List α} (h : ∀ a ∈ l, Plain (f a)) :
    Plain (l.flatMap f) := by
  intro i hi
  obtain ⟨a, ha, hi⟩ := List.mem_flatMap.1 hi
  exact h a ha i hi

theorem filterMap {α : Type} {f : α → Option Intent} {l : List α}
    (h : ∀ a i, f a = some i → i.isPlain = true) : Plain (l.filterMap f) := by
  intro i hi
  obtain ⟨a, -, hi⟩ := List.mem_filterMap.1 hi
  exact h a i hi

theorem work (h : Plain as) : Work as := by
  intro i hi
  have hplain := h i hi
  obtain ⟨op, reason, dependency⟩ := i
  cases op <;> first | rfl | cases hplain

end Plain

/-- The steps for the first-boot drive and its settings, in their order. -/
def CloudInitPlan.steps (p : CloudInitPlan) : List Intent := p.detach ++ p.attach.toList ++ p.updates

/-- The steps for disks, in their order. -/
def DiskPlan.steps (p : DiskPlan) : List Intent := p.updates ++ p.moves ++ p.resizes

theorem DiskPlan.work_append {p q : DiskPlan} (hp : Work p.steps) (hq : Work q.steps) :
    Work (p ++ q).steps := by
  simp only [DiskPlan.steps, Work.append_iff] at hp hq ⊢
  obtain ⟨⟨hpu, hpm⟩, hpr⟩ := hp
  obtain ⟨⟨hqu, hqm⟩, hqr⟩ := hq
  exact ⟨⟨hpu.append hqu, hpm.append hqm⟩, hpr.append hqr⟩

namespace Plan

/-! ## The parts of a pass -/

theorem plain_setOrDelete (field param : String) (want found : Option String) :
    Plain (setOrDelete field param want found) := by
  unfold setOrDelete
  split
  · exact .nil
  · cases want <;> simp [Plain, Intent.isPlain, Intent.update, Intent.delete, Operation.isConfigChange]

theorem plain_accountIntents (want : Account) (found : Option Account) :
    Plain (accountIntents want found) := by
  refine ((plain_setOrDelete _ _ _ _).append ?_).append (plain_setOrDelete _ _ _ _)
  split
  · exact .nil
  · exact plain_setOrDelete _ _ _ _

theorem plain_resolverIntents (want : Resolver) (found : Option Resolver) :
    Plain (resolverIntents want found) :=
  (plain_setOrDelete _ _ _ _).append (plain_setOrDelete _ _ _ _)

theorem plain_cloudInitUpdates (want : CloudInit) (found : Option CloudInit) :
    Plain (cloudInitUpdates want found) := by
  refine (Plain.append ?_ ?_).append (.flatMap fun n _ => plain_setOrDelete _ _ _ _)
  · cases want.account with
    | none => exact .nil
    | some account => exact plain_accountIntents _ _
  · cases want.resolver with
    | none => exact .nil
    | some resolver => exact plain_resolverIntents _ _

theorem work_detachIntents (want : CloudInit) (found : Option CloudInit) (occupied : NameSet) :
    Work (detachIntents want found occupied) := by
  refine Work.append ?_ ?_
  · intro i hi
    obtain ⟨slot, -, rfl⟩ := List.mem_map.1 hi
    rfl
  · split
    · simp [Work, Intent.delete, Operation.isLifecycle]
    · exact .nil

theorem work_planCloudInit (desired found : Option CloudInit) (occupied : NameSet) :
    Work (planCloudInit desired found occupied).steps := by
  unfold planCloudInit
  cases desired with
  | none => exact .nil
  | some want =>
    refine (Work.append ?_ ?_).append (plain_cloudInitUpdates want found).work
    · dsimp only
      split
      · exact work_detachIntents _ _ _
      · exact .nil
    · dsimp only
      split
      · simp [Work, attachIntent, Intent.update, Operation.isLifecycle]
      · exact .nil

theorem plain_planContainerResolver (desired found : Option CloudInit) :
    Plain (planContainerResolver desired found).steps := by
  unfold planContainerResolver
  refine Plain.append .nil ?_
  cases desired.bind (·.resolver) with
  | none => exact .nil
  | some want => exact plain_resolverIntents _ _

theorem work_changeDisk (id : UInt32) (slot : String) (want : Disk) (found : Option Disk) :
    Work (changeDisk id slot want found).steps := by
  cases found with
  | none =>
    simp [changeDisk, createDisk, Work, DiskPlan.steps, DiskPlan.empty, Intent.update, Operation.isLifecycle]
  | some found =>
    refine DiskPlan.work_append (DiskPlan.work_append ?_ ?_) ?_
    · unfold resizeDisk
      split_ifs <;> simp [Work, DiskPlan.steps, DiskPlan.empty, Operation.isLifecycle]
    · unfold moveDisk
      split_ifs <;> simp [Work, DiskPlan.steps, DiskPlan.empty, Operation.isLifecycle]
    · unfold retuneDisk
      split_ifs <;> simp [Work, DiskPlan.steps, DiskPlan.empty, Intent.update, Operation.isLifecycle]

theorem work_planDisks (id : UInt32) (desired observed : Dict Disk) :
    Work (planDisks id desired observed).steps :=
  planDisks_of_changeDisk (fun p => Work p.steps) (fun _ _ => DiskPlan.work_append) (fun _ => .nil)
    (work_changeDisk id) desired observed

theorem plain_comparisons (comparisons : List Comparison) :
    Plain (comparisons.filterMap Comparison.intent?) := by
  refine .filterMap fun c i hi => ?_
  unfold Comparison.intent? at hi
  split at hi
  · split at hi <;> cases hi <;> rfl
  · cases hi

theorem plain_templateIntents (ctx : DiffContext) (desired observed : Config) :
    Plain (templateIntents ctx desired observed) := by
  unfold templateIntents
  split
  · simp [Plain, Intent.isPlain, Intent.update, Operation.isConfigChange]
  · exact .nil

theorem plain_networkIntents (ctx : DiffContext) (desired observed : Config) :
    Plain (networkIntents ctx desired observed) := by
  unfold networkIntents nicIntents
  split
  · exact .nil
  · refine Plain.append (.filterMap fun entry i hi => ?_) (.filterMap fun entry i hi => ?_)
    · dsimp only [slotIntent?] at hi
      split at hi
      · cases hi; rfl
      · cases hi
      · cases hi; rfl
      · split at hi <;> cases hi
        rfl
    · dsimp only [pruneIntent?] at hi
      split at hi <;> cases hi
      rfl

theorem plain_diffConfig (ctx : DiffContext) (desired observed : Config) :
    Plain (diffConfig ctx desired observed).intents :=
  (((plain_comparisons _).append (plain_templateIntents _ _ _)).append (plain_comparisons _)).append
    (plain_networkIntents _ _ _)

variable (desired : Desired) (observed : Observed) (copied : Bool)

/-- What the parts of a pass want done, in the order in which a plan does it. -/
def work : List Intent :=
  (passCloudInit desired observed).steps ++ (passDiff desired observed copied).intents ++
    (passDisks desired observed).steps

theorem work_work : Work (work desired observed copied) := by
  refine Work.append (Work.append ?_ (plain_diffConfig _ _ _).work) (work_planDisks _ _ _)
  unfold passCloudInit
  split
  · exact work_planCloudInit _ _ _
  · exact (plain_planContainerResolver _ _).work

end Plan

/-! ## The frame around them -/

/-- The operations before and after the changes of a pass over an instance that is no template, which runs
or not, is wanted running or not, and may be owed a restart. -/
inductive Framed : (running wanted owed : Bool) → (opening closing : List Operation) → Prop
  | restarted (owed : Bool) : Framed true true owed [.shutdown] [.start]
  | closed (owed : Bool) : Framed true false owed [.shutdown] []
  | switchedOff (owed : Bool) : Framed true false owed [] [.shutdown]
  | switchedOn (owed : Bool) : Framed false true owed [] [.start]
  | rebooted : Framed true true true [] [.reboot]
  | running : Framed true true false [] []
  | stopped (owed : Bool) : Framed false false owed [] []

namespace ScheduleInput

variable (s : ScheduleInput)

theorem bare_changes : s.changes.map Intent.bare =
    (s.cloudInit.steps ++ s.config ++ s.disks.steps).map Intent.bare := by
  have hinWindow : Intent.bare ∘ s.inWindow = Intent.bare := rfl
  simp [changes, CloudInitPlan.steps, DiskPlan.steps, hinWindow]

theorem work_changes (h : Work (s.cloudInit.steps ++ s.config ++ s.disks.steps)) : Work s.changes := by
  rwa [Work.iff_bare, bare_changes, ← Work.iff_bare]

theorem framed (h : s.template = false) :
    Framed s.wasRunning s.wantStarted s.rebootRequired (s.opening.map Intent.op)
      ((s.alignment ++ s.restart).map Intent.op) := by
  unfold opening alignment restart
  cases hopen : s.windowOpen with
  | true =>
    -- A window is only opened for an instance that runs.
    have hrunning : s.wasRunning = true := by
      rw [windowOpen, Bool.and_eq_true] at hopen
      exact hopen.2
    rw [hrunning, h]
    cases s.wantStarted with
    | true => simpa using Framed.restarted s.rebootRequired
    | false => simpa using Framed.closed s.rebootRequired
  | false =>
    rw [h]
    cases s.wasRunning with
    | true =>
      cases s.wantStarted with
      | false => simpa using Framed.switchedOff s.rebootRequired
      | true =>
        cases s.rebootRequired with
        | true => simpa using Framed.rebooted
        | false => simpa using Framed.running
    | false =>
      cases s.wantStarted with
      | true => simpa using Framed.switchedOn s.rebootRequired
      | false => simpa using Framed.stopped s.rebootRequired

/-- A template is left as it is. -/
theorem frame_template (h : s.template = true) : s.opening = [] ∧ s.alignment ++ s.restart = [] := by
  simp [opening, windowOpen, alignment, restart, h]

theorem operations_schedule : (schedule s).operations =
    s.migrateTo.toList.map Operation.migrate ++ (s.opening.map Intent.op ++ s.changes.map Intent.op ++
      (s.alignment ++ s.restart).map Intent.op) := by
  simp [Plan.operations, schedule, migration]

end ScheduleInput

namespace Framed

variable {running wanted owed : Bool} {opening closing middle : List Operation}

theorem nodup (h : Framed running wanted owed opening closing) : (opening ++ closing).Nodup := by
  cases h <;> decide

theorem isFraming (h : Framed running wanted owed opening closing) :
    ∀ op ∈ opening ++ closing, op.isFraming = true := by
  cases h <;> decide

theorem no_migration (h : Framed running wanted owed opening closing) (node : String) :
    .migrate node ∉ opening ++ closing := by
  cases h <;> simp

/-- A restart that is owed is the only one, and nothing comes after it. -/
theorem owed_last (h : Framed running true true opening closing) :
    ∃ last, closing = [last] ∧ (last = .start ∨ last = .reboot) ∧ .start ∉ opening ∧ .reboot ∉ opening := by
  cases h with
  | restarted => exact ⟨.start, rfl, .inl rfl, by decide, by decide⟩
  | switchedOn => exact ⟨.start, rfl, .inl rfl, by decide, by decide⟩
  | rebooted => exact ⟨.reboot, rfl, .inr rfl, by decide, by decide⟩

theorem reboot_alone (h : Framed running wanted owed opening closing)
    (hreboot : .reboot ∈ opening ++ closing) : .shutdown ∉ opening ++ closing ∧ .start ∉ opening ++ closing := by
  cases h <;> first | decide | exact absurd hreboot (by decide)

theorem mem_around (hmiddle : ∀ op ∈ middle, op.isLifecycle = false) {op : Operation}
    (hop : op.isFraming = true) : op ∈ opening ++ middle ++ closing ↔ op ∈ opening ++ closing := by
  simp [Operation.not_mem_changes hmiddle hop]

theorem count_le_one (h : Framed running wanted owed opening closing)
    (hmiddle : ∀ op ∈ middle, op.isLifecycle = false) {op : Operation} (hop : op.isFraming = true) :
    (opening ++ middle ++ closing).count op ≤ 1 := by
  have hnone : middle.count op = 0 := List.count_eq_zero.2 (Operation.not_mem_changes hmiddle hop)
  have honce := List.nodup_iff_count_le_one.1 h.nodup op
  simp only [List.count_append, hnone] at honce ⊢
  omega

/-- Every operation finds the instance as it needs it, and the last one leaves it as it is wanted. -/
theorem reaches (h : Framed running wanted owed opening closing)
    (hmiddle : ∀ op ∈ middle, op.isLifecycle = false) :
    (opening ++ middle ++ closing).foldlM Operation.runsAfter? running = some wanted := by
  have hidle (running : Bool) : middle.foldlM Operation.runsAfter? running = some running :=
    Operation.foldlM_runsAfter? fun op hop => Operation.runsAfter?_of_not_isLifecycle (hmiddle op hop) running
  rw [List.append_assoc, List.foldlM_append]
  cases h <;> simp [Operation.runsAfter?, hidle]

end Framed

/-- A power history that leads from one state to another: each operation finds the instance as it needs it,
none of the frame is there twice, a restart that is owed comes last and only once, and nothing is rebooted
that is switched on or off as well. -/
structure PowerHistory (running wanted owed : Bool) (ops : List Operation) : Prop where
  reaches : ops.foldlM Operation.runsAfter? running = some wanted
  once : ∀ op, op.isFraming = true → ops.count op ≤ 1
  owed_last : owed = true → wanted = true → ∃ before last, ops = before ++ [last] ∧
    (last = .start ∨ last = .reboot) ∧ .start ∉ before ∧ .reboot ∉ before
  reboot_alone : .reboot ∈ ops → .shutdown ∉ ops ∧ .start ∉ ops

namespace Framed

variable {running wanted owed : Bool} {opening closing middle : List Operation}

theorem powerHistory (h : Framed running wanted owed opening closing)
    (hmiddle : ∀ op ∈ middle, op.isLifecycle = false) :
    PowerHistory running wanted owed (opening ++ middle ++ closing) where
  reaches := h.reaches hmiddle
  once op hop := h.count_le_one hmiddle hop
  owed_last howed hwanted := by
    subst howed hwanted
    obtain ⟨last, rfl, hlast, hstart, hreboot⟩ := h.owed_last
    refine ⟨_, last, rfl, hlast, ?_, ?_⟩
    · simpa [hstart] using Operation.not_mem_changes hmiddle rfl
    · simpa [hreboot] using Operation.not_mem_changes hmiddle rfl
  reboot_alone hreboot := by
    rw [mem_around hmiddle rfl] at hreboot ⊢
    rw [mem_around hmiddle rfl]
    exact h.reboot_alone hreboot

end Framed

/-- Moving an instance first leaves its power history as it is. -/
theorem PowerHistory.migrate {running wanted owed : Bool} {ops : List Operation} {node : String}
    (h : PowerHistory running wanted owed ops) (hnone : .migrate node ∉ ops) :
    PowerHistory running wanted owed (.migrate node :: ops) where
  reaches := h.reaches
  once op hop := by
    rw [List.count_cons]
    split
    · rename_i heq
      rw [← beq_iff_eq.1 heq, List.count_eq_zero.2 hnone]
    · exact h.once op hop
  owed_last howed hwanted := by
    obtain ⟨before, last, rfl, hlast, hstart, hreboot⟩ := h.owed_last howed hwanted
    exact ⟨.migrate node :: before, last, rfl, hlast, by simpa using hstart, by simpa using hreboot⟩
  reboot_alone hreboot := by simpa using h.reboot_alone (by simpa using hreboot)

namespace ScheduleInput

variable (s : ScheduleInput)

/-- Without its frame, a schedule is the changes. -/
theorem filter_intents (h : Work s.changes) :
    (schedule s).intents.filter (fun i => !i.op.isFraming) = s.changes := by
  have hmigration : ∀ i ∈ s.migration, i.op.isFraming = true := by
    intro i hi
    obtain ⟨node, -, rfl⟩ := List.mem_map.1 hi
    rfl
  have hframe : ∀ i ∈ s.opening ++ (s.alignment ++ s.restart), i.op.isFraming = true := by
    intro i hi
    cases htemplate : s.template with
    | true => simp [s.frame_template htemplate] at hi
    | false =>
      refine (s.framed htemplate).isFraming i.op ?_
      rw [← List.map_append]
      exact List.mem_map_of_mem hi
  have hdropped {intents : List Intent} (hintents : ∀ i ∈ intents, i.op.isFraming = true) :
      intents.filter (fun i => !i.op.isFraming) = [] := by
    simpa [List.filter_eq_nil_iff] using hintents
  have hkept : s.changes.filter (fun i => !i.op.isFraming) = s.changes := by
    refine List.filter_eq_self.2 fun i hi => ?_
    rw [Operation.isFraming_of_not_isLifecycle (h i hi)]
    rfl
  rw [Plan.intents_schedule, List.filter_append, List.filter_append, List.filter_append, hkept,
    hdropped hmigration, hdropped fun i hi => hframe i (List.mem_append_left _ hi),
    hdropped fun i hi => hframe i (List.mem_append_right _ hi)]
  simp

end ScheduleInput

namespace Plan

variable (desired : Desired) (observed : Observed) (copied : Bool)

/-- A plan does what the parts of the pass want done, and loses nothing of it. Before that it moves the
instance, if it has to, and its power operations lead from the observed to the wanted state; a template is
never switched on or off. -/
theorem planPass_power_history :
    let plan := (planPass desired observed copied).plan
    (plan.intents.filter fun i => !i.op.isFraming).map Intent.bare =
        (work desired observed copied).map Intent.bare ∧
      (∃ rest, plan.operations =
          (if desired.node = observed.identity.node then [] else [.migrate desired.node]) ++ rest ∧
        ∀ node, .migrate node ∉ rest) ∧
      if desired.config.template.value || observed.config.template.value then
        .shutdown ∉ plan.operations ∧ .start ∉ plan.operations ∧ .reboot ∉ plan.operations
      else
        PowerHistory observed.status.isRunning desired.config.started.value plan.rebootRequired
          plan.operations := by
  intro plan
  let s := passInput desired observed copied
  have hchanges : Work s.changes := s.work_changes (work_work desired observed copied)
  have hmiddle : ∀ op ∈ s.changes.map Intent.op, op.isLifecycle = false := by
    simpa [Work] using hchanges
  have hmigration : s.migrateTo.toList.map Operation.migrate =
      if desired.node = observed.identity.node then [] else [.migrate desired.node] := by
    change (if desired.node = observed.identity.node then none else some desired.node).toList.map _ = _
    split <;> rfl
  have hops : plan.operations = _ := s.operations_schedule
  rw [hmigration] at hops
  refine ⟨(congrArg _ (s.filter_intents hchanges)).trans s.bare_changes, ?_⟩
  change _ ∧ if s.template then _ else _
  cases htemplate : s.template with
  | true =>
    obtain ⟨hopening, hclosing⟩ := s.frame_template htemplate
    rw [hopening, hclosing, List.map_nil, List.nil_append, List.append_nil] at hops
    have hnone {op : Operation} (hop : op.isFraming = true) : op ∉ s.changes.map Intent.op :=
      Operation.not_mem_changes hmiddle hop
    refine ⟨⟨_, hops, fun node => hnone rfl⟩, ?_⟩
    rw [if_pos rfl, hops]
    simp only [List.mem_append, not_or]
    refine ⟨⟨?_, hnone rfl⟩, ⟨?_, hnone rfl⟩, ⟨?_, hnone rfl⟩⟩ <;> split <;> simp
  | false =>
    have hframed := s.framed htemplate
    have hhistory := hframed.powerHistory hmiddle
    have hnone (node : String) := mt (Framed.mem_around hmiddle rfl).1 (hframed.no_migration node)
    refine ⟨⟨_, hops, hnone⟩, ?_⟩
    rw [if_neg Bool.false_ne_true, hops]
    split
    · exact hhistory
    · exact hhistory.migrate (hnone _)

end Plan

end Steward
