/-
A comparison that was carried out in part. The steps of a comparison are those of one rule for each
parameter, no two rules share a parameter, and each is satisfied with what it writes. So whatever part of
the steps has been carried out, in whatever order, the instance can still be observed, and the next
comparison asks for the other steps and nothing else.
-/
import Mathlib
import Steward.Plan.Pass
import Steward.Proofs.NetworkRules

namespace Steward.Plan

/-! ## All rules of a comparison -/

def diffRules (ctx : DiffContext) (want : Config) : List ParamRule :=
  settingRules ctx want ++ nicRules ctx.kind want

/-- The parameters that a comparison may change. -/
def diffParams (kind : Kind) : List String := settingParams kind ++ (List.range maxNics).map nicSlot

theorem nodup_diffParams (kind : Kind) : (diffParams kind).Nodup := by cases kind <;> decide +kernel

theorem driveKeys_not_mem_diffParams (kind : Kind) :
    ∀ slot ∈ Remote.driveKeys kind, slot ∉ diffParams kind := by
  cases kind <;> decide +kernel

variable {ctx : DiffContext} {want : Config}

theorem params_diffRules (ctx : DiffContext) (want : Config) :
    ((diffRules ctx want).map ParamRule.param).Sublist (diffParams ctx.kind) := by
  rw [diffRules, diffParams, List.map_append]
  refine (params_settingRules ctx want).append ?_
  rw [nicRules]
  split
  · exact List.nil_sublist _
  · rw [List.map_map]
    exact List.Sublist.refl _

theorem nodup_params (ctx : DiffContext) (want : Config) : ((diffRules ctx want).map ParamRule.param).Nodup :=
  (nodup_diffParams ctx.kind).sublist (params_diffRules ctx want)

theorem names_diffRules : ∀ r ∈ diffRules ctx want, r.Names := by
  refine List.forall_mem_append.2 ⟨names_settings, fun r hr => ?_⟩
  rw [nicRules] at hr
  split at hr
  · simp at hr
  · obtain ⟨slot, -, rfl⟩ := List.mem_map.1 hr
    exact names_nicRule ctx.kind want slot

theorem settles_diffRules (hd : want.Declared ctx.kind) (hw : want.Writable ctx.kind) :
    ∀ r ∈ diffRules ctx want, r.Settles := by
  refine List.forall_mem_append.2 ⟨settles_settings hd hw, fun r hr => ?_⟩
  rw [nicRules] at hr
  split at hr
  · simp at hr
  · obtain ⟨slot, -, rfl⟩ := List.mem_map.1 hr
    exact settles_nicRule hd hw slot

/-- The rule of a network slot's parameter is the slot's. -/
theorem eq_nicRule_of_param {r : ParamRule} (hr : r ∈ diffRules ctx want) {slot : Nat}
    (hslot : slot < maxNics) (hp : r.param = nicSlot slot) : r = nicRule ctx.kind want slot := by
  rcases List.mem_append.1 hr with hr | hr
  · have hsetting : nicSlot slot ∈ settingParams ctx.kind :=
      (params_settingRules ctx want).subset (hp ▸ List.mem_map_of_mem hr)
    have hnic : nicSlot slot ∈ (List.range maxNics).map nicSlot :=
      List.mem_map_of_mem (List.mem_range.2 hslot)
    exact absurd hnic (List.disjoint_of_nodup_append (nodup_diffParams ctx.kind) hsetting)
  · rw [nicRules] at hr
    split at hr
    · simp at hr
    · obtain ⟨n, -, rfl⟩ := List.mem_map.1 hr
      rw [Text.append_decimal_inj.1 hp]

theorem intents_diffConfig {remote : Remote} {identity : Identity} {status : Status} {observed : Observed}
    (ho : remote.observe identity status = .ok observed) (hk : identity.kind = ctx.kind)
    (hn : want.nics.value.length ≤ maxNics) :
    (diffConfig ctx want observed.config).intents = ParamRule.steps (diffRules ctx want) remote := by
  obtain ⟨-, -, -, d, hconfig, hnics, haddresses⟩ := Remote.observe_spec ho
  rw [hk] at hconfig hnics haddresses
  have hnetworks : networkIntents ctx want observed.config =
      ParamRule.steps (nicRules ctx.kind want) remote :=
    intents_networks hn (by rw [hconfig]; exact hnics) (by rw [hconfig]; exact haddresses)
  rw [diffConfig, hnetworks, hconfig]
  dsimp only
  rw [intents_general, intents_template, intents_hardware, diffRules, settingRules, ParamRule.steps_append,
    ParamRule.steps_append, ParamRule.steps_append]

/-! ## After some of the steps -/

section Partial

variable {remote : Remote} {identity : Identity} {status : Status} {observed : Observed} {done : List Intent}

theorem exists_observe_applyAll (ctx : DiffContext) (hd : want.Declared ctx.kind)
    (hw : want.Writable ctx.kind)
    (hk : identity.kind = ctx.kind) (ho : remote.observe identity status = .ok observed)
    (hdone : done.Subperm (ParamRule.steps (diffRules ctx want) remote)) :
    ∃ after, (remote.applyAll done).observe identity status = .ok after := by
  have hrule : ∀ i ∈ done, ∃ r ∈ diffRules ctx want, i.op.param? = some r.param ∧ r.stepIn remote = some i :=
    fun i hi => ParamRule.exists_rule_of_mem_steps names_diffRules (hdone.subset hi)
  refine Remote.exists_observe ho (fun slot hslot => ?_) fun slot hslot => ?_
  · refine Remote.get?_applyAll_other fun i hi hp => ?_
    obtain ⟨r, hr, hparam, -⟩ := hrule i hi
    have heq : r.param = slot := Option.some.inj (hparam.symm.trans hp)
    have hmem : slot ∈ diffParams identity.kind := by
      rw [hk, ← heq]
      exact (params_diffRules ctx want).subset (List.mem_map_of_mem hr)
    exact driveKeys_not_mem_diffParams _ _ hslot hmem
  · by_cases htouched : ∃ i ∈ done, i.op.param? = some (nicSlot slot)
    · obtain ⟨i, hi, hp⟩ := htouched
      obtain ⟨r, hr, hparam, hstep⟩ := hrule i hi
      obtain rfl := eq_nicRule_of_param hr hslot (Option.some.inj (hparam.symm.trans hp))
      have hdistinct : (done.map (·.op.param?)).Nodup := 
        ParamRule.nodup_of_subperm names_diffRules (nodup_params ctx want) hdone
      rw [Remote.get?_applyAll_of_mem hdistinct hi hp, hk]
      exact (nicRule_step hd hw hstep).1
    · push Not at htouched
      rw [Remote.get?_applyAll_other htouched]
      exact (Remote.observe_spec ho).2.2.1 slot hslot

theorem intents_applyAll (ctx : DiffContext) (hd : want.Declared ctx.kind) (hw : want.Writable ctx.kind)
    (hk : identity.kind = ctx.kind) (ho : remote.observe identity status = .ok observed)
    (hdone : done.Subperm (diffConfig ctx want observed.config).intents) :
    ∃ after, (remote.applyAll done).observe identity status = .ok after ∧
      (diffConfig ctx want after.config).intents =
        (diffConfig ctx want observed.config).intents.filter fun i => decide (i ∉ done) := by
  rw [intents_diffConfig ho hk hd.nics] at hdone ⊢
  obtain ⟨after, hafter⟩ := exists_observe_applyAll ctx hd hw hk ho hdone
  refine ⟨after, hafter, ?_⟩
  rw [intents_diffConfig hafter hk hd.nics]
  exact ParamRule.steps_applyAll names_diffRules (settles_diffRules hd hw) (nodup_params ctx want) hdone

theorem passDiff_eq (h : remote.observe identity status = .ok observed) (desired : Desired) (copied : Bool) :
    passDiff desired observed copied =
      diffConfig ⟨identity.id, identity.kind, copied⟩ desired.config observed.config := by
  rw [passDiff, passContext, (Remote.observe_spec h).1]

theorem passDiff_applyAll {policy : Policy} {doc : Document} {desired : Desired} (copied : Bool)
    (hd : doc.desired policy = .ok desired) (hw : desired.config.Writable desired.kind)
      (hk : identity.kind = desired.kind)
    (ho : remote.observe identity status = .ok observed)
    (hdone : done.Subperm (passDiff desired observed copied).intents) :
    ∃ after, (remote.applyAll done).observe identity status = .ok after ∧
      (passDiff desired after copied).intents =
        (passDiff desired observed copied).intents.filter fun i => decide (i ∉ done) := by
  have hdeclared := Document.config_declared hd
  rw [← hk] at hdeclared hw
  rw [passDiff_eq ho] at hdone ⊢
  obtain ⟨after, hafter, hrest⟩ :=
    intents_applyAll ⟨identity.id, identity.kind, copied⟩ hdeclared hw rfl ho hdone
  exact ⟨after, hafter, by rw [passDiff_eq hafter]; exact hrest⟩

/-- When all steps have been carried out, none is left. -/
theorem passDiff_applyAll_self {policy : Policy} {doc : Document} {desired : Desired} (copied : Bool)
    (hd : doc.desired policy = .ok desired) (hw : desired.config.Writable desired.kind)
      (hk : identity.kind = desired.kind)
    (ho : remote.observe identity status = .ok observed) :
    ∃ after, (remote.applyAll (passDiff desired observed copied).intents).observe identity status =
      .ok after ∧ (passDiff desired after copied).intents = [] := by
  obtain ⟨after, hafter, hrest⟩ := passDiff_applyAll copied hd hw hk ho (List.Subperm.refl _)
  refine ⟨after, hafter, ?_⟩
  rw [hrest]
  simp

end Partial

/-- The steps of a comparison change distinct parameters, and after any of them, carried out in any order,
exactly the other ones are left. -/
theorem diff_resumed {policy : Policy} {doc : Document} {desired : Desired} {remote : Remote}
    {identity : Identity}
    {status : Status} {observed : Observed} (copied : Bool) (hd : doc.desired policy = .ok desired)
    (hw : desired.config.Writable desired.kind) (hk : identity.kind = desired.kind)
    (ho : remote.observe identity status = .ok observed) :
    let intents := (passDiff desired observed copied).intents
    (∀ i ∈ intents, i.op.isConfigChange = true) ∧ (intents.map (·.op.param?)).Nodup ∧
      (∀ done : List Intent, done.Subperm intents →
        ∃ after, (remote.applyAll done).observe identity status = .ok after ∧
          (passDiff desired after copied).intents = intents.filter fun i => decide (i ∉ done)) ∧
      ∃ after, (remote.applyAll intents).observe identity status = .ok after ∧
        (passDiff desired after copied).intents = [] := by
  have hdeclared := Document.config_declared hd
  let ctx : DiffContext := ⟨identity.id, identity.kind, copied⟩
  have hrules : (passDiff desired observed copied).intents =
      ParamRule.steps (diffRules ctx desired.config) remote := by
    rw [passDiff_eq ho]
    exact intents_diffConfig ho rfl hdeclared.nics
  refine ⟨fun i hi => ?_, ?_, fun done hdone => passDiff_applyAll copied hd hw hk ho hdone,
    passDiff_applyAll_self copied hd hw hk ho⟩
  · rw [hrules] at hi
    obtain ⟨r, -, hparam, -⟩ := ParamRule.exists_rule_of_mem_steps names_diffRules hi
    exact Operation.isConfigChange_of_param? hparam
  · rw [hrules]
    exact ParamRule.nodup_steps names_diffRules (nodup_params ctx desired.config)

def webServer : Document where
  node := "pve1"
  system := some { osType := some "l26" }
  name := some "web"
  tags := some ["prod", "web"]
  cpu := some { cores := some 4, emulation := some "host", flags := some ["+aes"] }
  nics := some [{ vlan := some 10, rate := some (.ofNat 12) }]

/-- What a hypervisor reports that knows the server under another name and with a device too many. -/
def webServerFound : Remote :=
  .ofList [("name", .string "old"), ("cores", .string "2"),
    ("net0", .string "virtio=AA:BB:CC:00:11:22,bridge=vmbr1"),
    ("net1", .string "virtio=AA:BB:CC:00:11:23,bridge=vmbr1")]

theorem diff_resumed_webServer : ∃ desired observed, webServer.desired {} = .ok desired ∧
    desired.config.Writable desired.kind ∧
    webServerFound.observe ⟨"pve1", 100, .vm⟩ ⟨.stopped, none⟩ = .ok observed ∧
    ∃ after, (webServerFound.applyAll (passDiff desired observed false).intents).observe ⟨"pve1", 100, .vm⟩
        ⟨.stopped, none⟩ = .ok after ∧ (passDiff desired after false).intents = [] := by
  obtain ⟨desired, hd⟩ : ∃ desired, webServer.desired {} = .ok desired := ⟨_, rfl⟩
  obtain ⟨observed, ho⟩ : ∃ observed, webServerFound.observe ⟨"pve1", 100, .vm⟩ ⟨.stopped, none⟩ =
    .ok observed :=
    ⟨_, rfl⟩
  have hkind : desired.kind = .vm := by cases hd; rfl
  have hwords : desired.config.InWords := by
    cases hd
    decide +kernel
  have hw := hwords.writable desired.kind
  exact ⟨desired, observed, hd, hw, ho, (diff_resumed false hd hw hkind.symm ho).2.2.2⟩

end Steward.Plan
