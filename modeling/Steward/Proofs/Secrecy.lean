/-
What the program prints of a password. A plan never shows it, and neither do failures; a step that was skipped
is shown as it is. So of two documents that differ in the password, over a wire that gives the same replies
and reports neither password, the plans are printed the same, and so are the runs, unless the step that sets
the password is skipped.
-/
import Mathlib
import Steward.Command.Run
import Steward.Proofs.FixedReplies
import Steward.Proofs.TwinRuns
import Steward.UserSettings.Plain

namespace Steward

/-! ## Lines that differ in a word -/

/-- Texts that differ in one place at most, where one has `p` and the other has `q`. -/
inductive OneWord (p q : String) : String → String → Prop
  | same (s : String) : OneWord p q s s
  | word (before after : String) : OneWord p q (before ++ p ++ after) (before ++ q ++ after)

namespace OneWord

variable {p q s t : String} {xs ys : List String}

theorem append (before : String) (h : OneWord p q s t) (after : String) :
    OneWord p q (before ++ s ++ after) (before ++ t ++ after) := by
  cases h with
  | same s => exact .same _
  | word b a => simpa only [String.append_assoc] using OneWord.word (before ++ b) (a ++ after)

theorem symm (h : OneWord p q s t) : OneWord q p t s := by
  cases h with
  | same s => exact .same s
  | word b a => exact .word b a

theorem length_le (hpq : p.length ≤ q.length) (h : OneWord p q s t) : s.length ≤ t.length := by
  cases h with
  | same s => exact Nat.le_refl _
  | word b a =>
    simp only [String.length_append]
    omega

theorem length_join_le (hpq : p.length ≤ q.length) (h : List.Forall₂ (OneWord p q) xs ys) :
    (String.join xs).length ≤ (String.join ys).length := by
  induction h with
  | nil => exact Nat.le_refl _
  | cons hst hrest ih =>
    have hle := hst.length_le hpq
    rw [String.join_cons, String.join_cons, String.length_append, String.length_append]
    omega

/-- Lines that make up one text are the same, as no line of the first text is longer than its counterpart. -/
theorem join_inj (hpq : p.length ≤ q.length) (h : List.Forall₂ (OneWord p q) xs ys)
    (hjoin : String.join xs = String.join ys) : xs = ys := by
  induction h with
  | nil => rfl
  | @cons s t xs ys hst hrest ih =>
    rw [String.join_cons, String.join_cons] at hjoin
    have hlength := congrArg String.length hjoin
    rw [String.length_append, String.length_append] at hlength
    have hle := hst.length_le hpq
    have hrestle := length_join_le hpq hrest
    -- neither part is longer on the left, so the first lines end at the same place
    have hsplit := congrArg String.toList hjoin
    rw [String.toList_append, String.toList_append] at hsplit
    obtain ⟨hs, hxs⟩ := List.append_inj hsplit (by rw [String.length_toList, String.length_toList]; omega)
    rw [String.toList_inj.1 hs, ih (String.toList_inj.1 hxs)]

end OneWord

theorem linesText_append (xs ys : List String) : linesText (xs ++ ys) = linesText xs ++ linesText ys := by
  rw [linesText, linesText, linesText, List.map_append, String.join_append]

theorem OneWord.linesText_inj {p q : String} {xs ys : List String} (h : List.Forall₂ (OneWord p q) xs ys) :
    linesText xs = linesText ys ↔ xs = ys := by
  refine ⟨fun hlines => ?_, fun he => he ▸ rfl⟩
  have hends : List.Forall₂ (OneWord p q) (xs.map fun line => line ++ "\n")
      (ys.map fun line => line ++ "\n") :=
    List.forall₂_map_left_iff.2 (List.forall₂_map_right_iff.2 (h.imp fun s t hst => by
      simpa using hst.append "" "\n"))
  have hmap : (xs.map fun line => line ++ "\n") = ys.map fun line => line ++ "\n" := by
    rcases Nat.le_total p.length q.length with hpq | hqp
    · exact OneWord.join_inj hpq hends hlines
    · exact (OneWord.join_inj hqp (hends.flip.imp fun s t hst => hst.symm) hlines.symm).symm
  exact List.map_injective_iff.2 (fun s t hst => String.append_left_inj _ |>.1 hst) hmap

/-! ## What is printed of plans and reports -/

variable {p q : String}

theorem Intent.Twin.planLine {i j : Intent} (h : i.Twin p q j) : i.planLine = j.planLine := by
  cases h <;> rfl

namespace Plan

variable {a b : Plan}

theorem countWhere_twins (h : Twins p q a.intents b.intents) (f : Operation → Bool)
    (hf : ∀ field, f (.update field "cipassword" p) = f (.update field "cipassword" q)) :
    a.countWhere f = b.countWhere f := by
  have hmap : (a.intents.map fun i => f i.op) = b.intents.map fun i => f i.op := by
    refine h.map_eq ?_
    rintro i j (hi | ⟨field, reason, dependency⟩)
    · rfl
    · exact hf field
  have hcount (c : Plan) : c.countWhere f = (c.intents.map fun i => f i.op).countP id := by
    rw [List.countP_map]
    rfl
  rw [hcount, hcount, hmap]

/-- A plan shows no password. -/
theorem lines_twins (h : Twins p q a.intents b.intents) (hr : a.rebootRequired = b.rebootRequired) :
    a.lines = b.lines := by
  have hsummary : a.summary = b.summary := by
    rw [summary, summary, countWhere_twins h isUpdate fun _ => rfl, countWhere_twins h isDelete fun _ => rfl,
      countWhere_twins h Operation.isDiskOperation fun _ => rfl,
      countWhere_twins h Operation.isLifecycle fun _ => rfl]
  rw [lines, lines, h.map_eq fun i j hi => hi.planLine, hsummary, hr]

end Plan

theorem plannedOutput_twins (id : Identity) {x y : Option (Observed × PlanOutcome)}
    (h : PlannedTwins p q x y) : plannedOutput id x = plannedOutput id y := by
  cases h with
  | none => rfl
  | @some x y h =>
    obtain ⟨observed, a⟩ := x
    obtain ⟨_, b⟩ := y
    obtain ⟨rfl, h⟩ := h
    rw [plannedOutput, plannedOutput, PlanOutcome.isClean, PlanOutcome.isClean, h.failures,
      Plan.hasChanges_twins h.intents, Plan.lines_twins h.intents h.rebootRequired]

namespace Report

/-- The steps that a pass has not tried. -/
def leftUndone (r : Report) : List Intent := r.applied.skipped.map (·.1)

/-- How a step that was skipped is shown. -/
def skippedLine (step : Intent × SkipReason) : String :=
  "  skipped " ++ step.1.toText ++ " (" ++ step.2.toText ++ ")"

/-- A step that was skipped is shown with its value. -/
theorem skippedLine_update (field param value : String) (reason : Reason) (dependency : Dependency)
    (why : SkipReason) :
    skippedLine (⟨.update field param value, reason, dependency⟩, why) =
      ("  skipped " ++ ("update " ++ field ++ " (" ++ param ++ "=")) ++ value ++
        (")" ++ " [" ++ reason.toText ++ "]" ++ " (" ++ why.toText ++ ")") := by
  change "  skipped " ++
    ("update " ++ field ++ " (" ++ param ++ "=" ++ value ++ ")" ++ " [" ++ reason.toText ++ "]") ++
    " (" ++ why.toText ++ ")" = _
  simp only [String.append_assoc]

theorem oneWord_skippedLine {a b : Intent × SkipReason} (h : a.1.Twin p q b.1 ∧ a.2 = b.2) :
    OneWord p q (skippedLine a) (skippedLine b) := by
  obtain ⟨i, why⟩ := a
  obtain ⟨j, _⟩ := b
  obtain ⟨hi, rfl⟩ := h
  cases hi with
  | same _ => exact .same _
  | secret field reason dependency =>
    rw [skippedLine_update, skippedLine_update]
    exact .word _ _

/-- The lines of steps that were skipped differ where the password is among them. -/
theorem map_skippedLine_eq_iff {as bs : List (Intent × SkipReason)} (h : NotedTwins p q as bs) :
    as.map skippedLine = bs.map skippedLine ↔ p = q ∨ "cipassword" ∉ touched (as.map (·.1)) := by
  induction h with
  | nil => simp [touched]
  | @cons a b as bs hab hrest ih =>
    obtain ⟨i, why⟩ := a
    obtain ⟨j, _⟩ := b
    obtain ⟨hi, rfl⟩ := hab
    rw [List.map_cons, List.map_cons, List.cons.injEq, ih, List.map_cons, ← List.singleton_append,
      touched_append, List.mem_append, not_or]
    cases hi with
    | same hparam =>
      have hother : "cipassword" ∉ touched [i] := by simpa [mem_touched] using hparam
      simp only [true_and, hother, not_false_eq_true]
    | secret field reason dependency =>
      have htouches : "cipassword" ∈ touched [⟨.update field "cipassword" p, reason, dependency⟩] :=
        List.mem_singleton.2 rfl
      rw [skippedLine_update, skippedLine_update, String.append_left_inj, String.append_right_inj]
      simp only [htouches, not_true_eq_false, false_and, or_false, and_iff_left_iff_imp]
      exact fun he => .inl he

namespace Twin

variable {a b : Report}

theorem skippedLines_eq_iff (h : a.Twin p q b) :
    linesText a.skippedLines = linesText b.skippedLines ↔ p = q ∨ "cipassword" ∉ touched a.leftUndone := by
  have hlines (r : Report) : r.skippedLines = r.applied.skipped.map skippedLine := rfl
  rw [OneWord.linesText_inj, hlines, hlines, leftUndone, ← map_skippedLine_eq_iff h.applied.skipped]
  rw [hlines, hlines]
  exact List.forall₂_map_left_iff.2 (List.forall₂_map_right_iff.2
    (h.applied.skipped.imp fun _ _ hab => oneWord_skippedLine hab))

/-- A report shows the password with the steps that were skipped, and nowhere else. -/
theorem output (h : a.Twin p q b) : a.output.errors = b.output.errors ∧ a.output.code = b.output.code ∧
    (a.output.output = b.output.output ↔ p = q ∨ "cipassword" ∉ touched a.leftUndone) := by
  have hsuccess : a.isSuccess = b.isSuccess := by rw [isSuccess, isSuccess, h.failures]
  have hchanges : a.changeLines = b.changeLines := by
    rw [changeLines, changeLines, Plan.hasChanges_twins h.intents,
      Plan.lines_twins h.intents h.rebootRequired]
  have hconvergence : a.convergenceLines = b.convergenceLines := by
    rw [convergenceLines, convergenceLines, h.outcome, h.converged, hsuccess]
  have hlines : linesText a.lines = linesText b.lines ↔ p = q ∨ "cipassword" ∉ touched a.leftUndone := by
    rw [lines, lines, h.identity, h.outcome, hchanges, hconvergence]
    simp only [linesText_append, String.append_left_inj, String.append_right_inj, h.skippedLines_eq_iff]
  rw [Report.output, Report.output, hsuccess, h.duration, h.failures]
  split
  · refine ⟨rfl, rfl, ?_⟩
    rw [Printed.success, Printed.success, linesText_append, linesText_append, String.append_left_inj, hlines]
  · exact ⟨rfl, rfl, hlines⟩

end Twin

end Report

/-! ## Whole runs of the program -/

/-- What a reply, read as a configuration, reports of the account's password. -/
def Rest.Reply.shownPassword? (reply : Rest.Reply) : Option String :=
  (reply.read.toOption.bind Remote.ofJson?).bind fun remote => (Rest.decodeParams remote).text? "cipassword"

namespace Environment

variable (env : Environment)

/-- The document that a file holds, as it is read here. -/
def document? (file : String) : Option Document := (env.read file).toOption.bind env.reader.document

/-- The report in which applying a file ends. -/
def report? (file : String) (wire : Rest.Wire) : Option Report :=
  (env.declared file).toOption.bind fun (desired, reconciler) =>
    (overWire (reconciler.apply desired) wire).1.toOption

variable {env}

/-- Without a file of settings, they come from the variables alone. -/
theorem settings_of_no_file {env env' : Environment} (hv : env.vars = env'.vars)
    (h : env.settingsPaths.find? env.hasPath = none) (h' : env'.settingsPaths.find? env'.hasPath = none) :
    env.settings = env'.settings := by
  rw [settings, settings, UserSettings.load, UserSettings.load, settingsPath, settingsPath, h, h', hv]

theorem desired_of_document? {file : String} {doc : Document} (h : env.document? file = some doc)
    (s : UserSettings) : s.desired env file = (doc.desired s.policy).mapError (.invalid file) := by
  obtain ⟨text, htext, hdoc⟩ := Option.bind_eq_some_iff.1 h
  rw [UserSettings.desired, Except.toOption_eq_some_iff.1 htext]
  dsimp only [Except.mapError, bind, Except.bind]
  rw [hdoc]

/-- Documents that differ in the password are refused alike, or declare instances that differ in it. -/
theorem declared_withPassword {env env' : Environment} {file : String} {doc : Document}
    (hs : env.settings = env'.settings) (hp : env.document? file = some (doc.withPassword p))
    (hq : env'.document? file = some (doc.withPassword q)) :
    (∃ policy d client s, doc.desired policy = .ok d ∧
      env.declared file = .ok (d.withPassword p, UserSettings.reconciler s client) ∧
      env'.declared file = .ok (d.withPassword q, UserSettings.reconciler s client)) ∨
      ∃ e, env.declared file = .error e ∧ env'.declared file = .error e := by
  rw [declared, declared, ← hs]
  cases env.settings with
  | error e => exact .inr ⟨e, rfl, rfl⟩
  | ok s =>
    dsimp only [bind, Except.bind]
    rw [desired_of_document? hp, desired_of_document? hq, Document.desired_withPassword,
      Document.desired_withPassword]
    cases hd : doc.desired s.policy with
    | error fault => exact .inr ⟨_, rfl, rfl⟩
    | ok d =>
      cases hclient : s.client with
      | error e => exact .inr ⟨e, rfl, rfl⟩
      | ok client => exact .inl ⟨s.policy, d, client, s, hd, rfl, rfl⟩

end Environment

/-- Steps that are alike end alike when they are run over a wire. -/
theorem alike_overWire {α β : Type} {K : Rest.Reply → Prop} {Q : α → β → Prop}
    {a : Steps (World Rest.Wire) Failure α} {b : Steps (World Rest.Wire) Failure β}
    (h : a.Alike (fun w v => Rest.Wire.Alike K w.remote v.remote) Q b) {wire : Rest.Wire}
    (hwire : ∀ reply ∈ wire.replies, K reply) : Except.Alike Q (overWire a wire).1 (overWire b wire).1 := by
  have hend := h none ⟨wire, []⟩ ⟨wire, []⟩ 0 ⟨rfl, rfl, hwire⟩
  rw [overWire, overWire]
  generalize a none ⟨wire, []⟩ 0 = ending, b none ⟨wire, []⟩ 0 = ending' at hend
  cases hend with
  | ok hQ _ => exact .ok hQ
  | error _ | panicked _ | cut _ => exact .error _

theorem Rest.Client.oblivious_hides (client : Rest.Client) : client.hypervisor.Oblivious
    (fun w v => Rest.Wire.Alike (fun reply => reply.shownPassword? ≠ some p ∧ reply.shownPassword? ≠ some q)
      w.remote v.remote) (Remote.Hides p q) := by
  refine client.oblivious ?_
  rintro data remote ⟨reply, hreply, hread⟩ hremote
  have hshown : reply.shownPassword? = (Rest.decodeParams remote).text? "cipassword" := by
    rw [Rest.Reply.shownPassword?, Except.toOption_eq_some_iff.2 hread, Option.bind_some, hremote,
      Option.bind_some]
  rw [hshown] at hreply
  exact hreply

namespace Command

section Runs

variable {r : Reconciler Rest.Wire} {K : Rest.Reply → Prop} {doc : Document} {policy : Policy} {d : Desired}
  {wire : Rest.Wire}
  (ho : r.hypervisor.Oblivious (fun w v => Rest.Wire.Alike K w.remote v.remote) (Remote.Hides p q))
  (hd : doc.desired policy = .ok d)

include ho hd

theorem runPlan_withPassword (copied : Bool) (hwire : ∀ reply ∈ wire.replies, K reply) :
    (runPlan (d.withPassword p) r copied wire).1 = (runPlan (d.withPassword q) r copied wire).1 := by
  have hid (password : String) : (d.withPassword password).id = d.id := rfl
  have hidentity (password : String) : (d.withPassword password).identity = d.identity := rfl
  have hclone (password : String) : (d.withPassword password).clone = d.clone := rfl
  rw [runPlan, runPlan, hid, hid, hidentity, hidentity, hclone, hclone]
  cases d.id with
  | none => rfl
  | some n =>
    have hplan := alike_overWire
      (Reconciler.alike_plan ho hd (d.identity n) (copied || d.clone.isSome)) hwire
    dsimp only
    generalize (overWire (r.plan (d.withPassword p) _ _) wire).1 = x,
      (overWire (r.plan (d.withPassword q) _ _) wire).1 = y at hplan ⊢
    cases hplan with
    | ok h => exact plannedOutput_twins _ h
    | error e => rfl

theorem runApply_withPassword (hwire : ∀ reply ∈ wire.replies, K reply) :
    (runApply (d.withPassword p) r wire).1.errors = (runApply (d.withPassword q) r wire).1.errors ∧
      (runApply (d.withPassword p) r wire).1.code = (runApply (d.withPassword q) r wire).1.code ∧
      ((runApply (d.withPassword p) r wire).1.output = (runApply (d.withPassword q) r wire).1.output ↔
        p = q ∨ ∀ report ∈ (overWire (r.apply (d.withPassword p)) wire).1.toOption,
          "cipassword" ∉ touched report.leftUndone) := by
  have happly := alike_overWire (Reconciler.alike_apply ho hd) hwire
  rw [runApply, runApply]
  dsimp only
  generalize (overWire (r.apply (d.withPassword p)) wire).1 = x,
    (overWire (r.apply (d.withPassword q)) wire).1 = y at happly ⊢
  cases happly with
  | ok h => simpa [printed, Except.toOption] using h.output
  | error e => exact ⟨rfl, rfl, iff_of_true rfl (.inr (by simp [Except.toOption]))⟩

end Runs

/-- With two passwords, neither of which any reply reports, plans are printed the same, and so is what comes
of applying, unless a step that sets the password is skipped: then it is shown. -/
theorem password_shown_iff {env env' : Environment} {file : String} {doc : Document} {wire : Rest.Wire}
    (hs : env.settings = env'.settings) (hp : env.document? file = some (doc.withPassword p))
    (hq : env'.document? file = some (doc.withPassword q))
    (hquiet : ∀ reply ∈ wire.replies, reply.shownPassword? ≠ some p ∧ reply.shownPassword? ≠ some q) :
    (∀ copied, (run env (.plan file copied) wire).1 = (run env' (.plan file copied) wire).1) ∧
      (run env (.apply file) wire).1.errors = (run env' (.apply file) wire).1.errors ∧
      (run env (.apply file) wire).1.code = (run env' (.apply file) wire).1.code ∧
      ((run env (.apply file) wire).1.output = (run env' (.apply file) wire).1.output ↔
        p = q ∨ ∀ report ∈ env.report? file wire, "cipassword" ∉ touched report.leftUndone) := by
  rcases Environment.declared_withPassword hs hp hq with ⟨policy, d, client, s, hd, hp, hq⟩ | ⟨e, hp, hq⟩
  · have ho : (s.reconciler client).hypervisor.Oblivious _ (Remote.Hides p q) := client.oblivious_hides
    refine ⟨fun copied => ?_, ?_⟩
    · rw [run, run, hp, hq]
      exact runPlan_withPassword ho hd copied hquiet
    · rw [run, run, hp, hq, Environment.report?, hp]
      exact runApply_withPassword ho hd hquiet
  · refine ⟨fun copied => ?_, ?_⟩
    · rw [run, run, hp, hq]
    · rw [run, run, hp, hq, Environment.report?, hp]
      exact ⟨rfl, rfl, iff_of_true rfl (.inr (by simp [Except.toOption]))⟩

/-- A copy that is declared on another node than its source, with an account. -/
def movedCopy : Document :=
  { node := "pve2"
    clone := some { id := 9000, node := some "pve1" }
    started := some false
    init := some { account := some ⟨none, none, []⟩ } }

/-- Surroundings in which a file declares `movedCopy` with a password. -/
def copyEnvironment (password : String) : Environment where
  reader := .plain
  files := .ofList
    [("/vm.yaml",
      .text ("\x7b\"node_name\":\"pve2\",\"clone\":\x7b\"vm_id\":9000,\"node_name\":\"pve1\"\x7d," ++
        "\"started\":false,\"initialization\":\x7b\"user_account\":\x7b\"password\":\"" ++ password ++
        "\"\x7d\x7d\x7d"))]
  vars := .ofList
    [("PROXMOX_VE_ENDPOINT", "http://pve:8006"), ("PROXMOX_VE_API_TOKEN", "root@pam!oracle=secret")]
  workingDirectory := "/"
  configDirectory := none

/-- Replies to a run that makes a copy and fails to move it: a number, the copy, its status twice with an
empty configuration in between, and a refusal. -/
def brokenMigration : Rest.Wire where
  reachable := true
  replies :=
    [.answer 200 "\x7b\"data\":\"101\"\x7d", .answer 200 "\x7b\"data\":null\x7d",
      .answer 200 "\x7b\"data\":\x7b\"status\":\"stopped\"\x7d\x7d", .answer 200 "\x7b\"data\":\x7b\x7d\x7d",
      .answer 200 "\x7b\"data\":\x7b\"status\":\"stopped\"\x7d\x7d", .answer 500 "no quorum"]
  sent := []

/-- When the move fails, the step that sets the password is skipped, and the output tells the passwords
apart. -/
theorem password_shown_movedCopy :
    (run (copyEnvironment "hunter2") (.plan "vm.yaml" false) brokenMigration).1 =
        (run (copyEnvironment "letmein") (.plan "vm.yaml" false) brokenMigration).1 ∧
      (run (copyEnvironment "hunter2") (.apply "vm.yaml") brokenMigration).1.output ≠
        (run (copyEnvironment "letmein") (.apply "vm.yaml") brokenMigration).1.output := by
  have hundone : (((copyEnvironment "hunter2").report? "vm.yaml" brokenMigration).map fun report =>
      touched report.leftUndone) = some ["ide2", "cipassword"] := by decide +kernel
  have hsettings : (copyEnvironment "hunter2").settings = (copyEnvironment "letmein").settings :=
    Environment.settings_of_no_file rfl (by decide +kernel) (by decide +kernel)
  have hp : (copyEnvironment "hunter2").document? "vm.yaml" = some (movedCopy.withPassword "hunter2") := by
    decide +kernel
  have hq : (copyEnvironment "letmein").document? "vm.yaml" = some (movedCopy.withPassword "letmein") := by
    decide +kernel
  have hquiet : ∀ reply ∈ brokenMigration.replies,
      reply.shownPassword? ≠ some "hunter2" ∧ reply.shownPassword? ≠ some "letmein" := by decide +kernel
  obtain ⟨report, hreport, htouched⟩ := Option.map_eq_some_iff.1 hundone
  obtain ⟨hplan, -, -, houtput⟩ := password_shown_iff hsettings hp hq hquiet
  refine ⟨hplan false, fun hsame => ?_⟩
  rcases houtput.1 hsame with hpassword | hnone
  · exact absurd hpassword (by decide)
  · refine hnone report hreport ?_
    rw [htouched]
    decide

end Command

end Steward
