/-
First-boot settings as rules, one for each parameter. What is planned for them depends on nothing but what
their parameters say, and a setting is removed only where none is wanted: so what is left behind by a plan
that was made without a look at the parameters can be told beforehand.
-/
import Mathlib
import Steward.Proofs.FirstPass
import Steward.Proofs.SlotConflict

namespace Steward

open PropertyString

namespace Plan

/-! ## One setting -/

/-- A first-boot setting: how it is wanted in its parameter, how it is found there, and what may be there
that is as good as what is wanted. -/
structure InitSetting where
  field : String
  param : String
  want : Option String
  found : Option String → Option String := id
  settled : Option String → Bool := fun _ => false

namespace InitSetting

/-- A setting is found as it was written, none where none was, and only then nothing may be as good. -/
structure Faithful (s : InitSetting) : Prop where
  written : s.found s.want = s.want
  absent : s.found none = none
  settled : s.settled none = true → s.want = none

variable {s : InitSetting}

/-- The step that makes the parameter say what is wanted. -/
def intent (s : InitSetting) : Intent :=
  s.want.elim (.delete s.param .cleared) fun text => .update s.field s.param text .drift

/-- Whether a parameter needs no step. -/
def isMet (s : InitSetting) (text : Option String) : Bool := s.settled text || decide (s.want = s.found text)

def rule (s : InitSetting) : ParamRule where
  param := s.param
  step value := if s.isMet (value.bind Remote.textOf?) then none else some s.intent

theorem step_eq_some_iff {value : Option Json} {i : Intent} :
    s.rule.step value = some i ↔ s.isMet (value.bind Remote.textOf?) = false ∧ s.intent = i := by
  cases h : s.isMet (value.bind Remote.textOf?) <;> simp [rule, h]

theorem step_eq_none_iff {value : Option Json} :
    s.rule.step value = none ↔ s.isMet (value.bind Remote.textOf?) = true := by
  cases h : s.isMet (value.bind Remote.textOf?) <;> simp [rule, h]

theorem names_rule (s : InitSetting) : s.rule.Names := by
  intro value i h
  obtain ⟨-, rfl⟩ := step_eq_some_iff.1 h
  rw [intent]
  cases s.want <;> rfl

theorem stored?_intent (s : InitSetting) : s.intent.op.stored? = s.want.map .string := by
  rw [intent]
  cases s.want <;> rfl

theorem Faithful.settles (h : s.Faithful) : s.rule.Settles := by
  intro value i hi
  obtain ⟨-, rfl⟩ := step_eq_some_iff.1 hi
  have htext : (s.intent.op.stored?).bind Remote.textOf? = s.want := by
    rw [stored?_intent]
    cases s.want <;> rfl
  rw [step_eq_none_iff, htext, isMet, h.written, decide_eq_true rfl, Bool.or_true]

/-- Nothing is missed where nothing is said exactly if nothing is wanted. -/
theorem Faithful.step_none_iff (h : s.Faithful) : s.rule.step none = none ↔ s.want = none := by
  rw [step_eq_none_iff, Option.bind_none, isMet, h.absent, Bool.or_eq_true, decide_eq_true_eq]
  exact or_iff_right_of_imp h.settled

end InitSetting

theorem setOrDelete_eq (s : InitSetting) (found : Option String) :
    setOrDelete s.field s.param s.want found = if s.want = found then [] else [s.intent] := by
  rw [InitSetting.intent]
  cases s.want <;> rfl

theorem toList_step (s : InitSetting) (value : Option Json) :
    (s.rule.step value).toList =
      if s.settled (value.bind Remote.textOf?) then [] else
        setOrDelete s.field s.param s.want (s.found (value.bind Remote.textOf?)) := by
  rw [setOrDelete_eq]
  cases hs : s.settled (value.bind Remote.textOf?) <;>
    by_cases hw : s.want = s.found (value.bind Remote.textOf?) <;>
      simp [InitSetting.rule, InitSetting.isMet, hs, hw]

/-! ## All settings -/

def accountSettings (want : Account) : List InitSetting :=
  [{ field := "cloud_init.user_account.username", param := "ciuser", want := want.name },
    { field := "cloud_init.user_account.password", param := "cipassword", want := want.password
      settled := passwordSettled want.password },
    { field := "cloud_init.user_account.keys", param := "sshkeys", want := joined? "\n" want.keys
      found := fun text => joined? "\n" ((text.map Text.lines).getD []) }]

def resolverSettings (want : Resolver) : List InitSetting :=
  [{ field := "cloud_init.dns.domain", param := "searchdomain", want := want.domain },
    { field := "cloud_init.dns.servers", param := "nameserver", want := joined? " " want.servers
      found := fun text => joined? " " ((text.map Text.words).getD []) }]

def addressSetting (want : List IpConfig) (n : Nat) : InitSetting where
  field := "cloud_init.ip_config[" ++ Text.decimal n ++ "]"
  param := IpConfig.slot n
  want := ipConfigText? want[n]?
  found text := ipConfigText? (text.map IpConfig.ofText)

def initSettings (want : CloudInit) : List InitSetting :=
  (want.account.map accountSettings).getD [] ++ (want.resolver.map resolverSettings).getD [] ++
    (List.range Remote.maxIpConfigs).map (addressSetting want.ipConfigs)

def initRules (want : CloudInit) : List ParamRule := (initSettings want).map InitSetting.rule

theorem params_initRules (want : CloudInit) :
    ((initRules want).map ParamRule.param).Sublist (cloudInitParams Remote.maxIpConfigs) := by
  rw [initRules, initSettings, List.map_map, List.map_append, List.map_append]
  have haccount : (((want.account.map accountSettings).getD []).map
      (ParamRule.param ∘ InitSetting.rule)).Sublist ["ciuser", "cipassword", "sshkeys"] := by
    cases want.account <;> simp [accountSettings, InitSetting.rule]
  have hresolver : (((want.resolver.map resolverSettings).getD []).map
      (ParamRule.param ∘ InitSetting.rule)).Sublist ["searchdomain", "nameserver"] := by
    cases want.resolver <;> simp [resolverSettings, InitSetting.rule]
  refine (haccount.append hresolver).append ?_
  rw [List.map_map]
  exact List.Sublist.refl _

theorem nodup_initRules (want : CloudInit) : ((initRules want).map ParamRule.param).Nodup :=
  (nodup_cloudInitParams _).sublist (params_initRules want)

theorem names_initRules (want : CloudInit) : ∀ r ∈ initRules want, r.Names := by
  intro r hr
  obtain ⟨s, -, rfl⟩ := List.mem_map.1 hr
  exact s.names_rule

/-! ## First-boot settings that can be stored -/

/-- First-boot settings that are read back as they are written. -/
structure Storable (want : CloudInit) : Prop where
  datastore : IsStore want.datastore
  servers : ∀ resolver ∈ want.resolver, ∀ s ∈ resolver.servers, IsToken s
  keys : ∀ account ∈ want.account, ∀ s ∈ account.keys, IsLine s
  count : want.ipConfigs.length ≤ Remote.maxIpConfigs
  addresses : ∀ ip ∈ want.ipConfigs, ip.Writable

instance (want : CloudInit) : Decidable (Storable want) :=
  decidable_of_iff
    (IsStore want.datastore ∧ (∀ resolver ∈ want.resolver, ∀ s ∈ resolver.servers, IsToken s) ∧
      (∀ account ∈ want.account, ∀ s ∈ account.keys, IsLine s) ∧
      want.ipConfigs.length ≤ Remote.maxIpConfigs ∧ ∀ ip ∈ want.ipConfigs, ip.Writable)
    ⟨fun ⟨h1, h2, h3, h4, h5⟩ => ⟨h1, h2, h3, h4, h5⟩, fun ⟨h1, h2, h3, h4, h5⟩ => ⟨h1, h2, h3, h4, h5⟩⟩

theorem faithful_initSettings {want : CloudInit} (h : Storable want)
    (ht : ∀ account ∈ want.account, ∀ s ∈ account.keys, Text.trim s.toList = s.toList) :
    ∀ s ∈ initSettings want, s.Faithful := by
  simp only [initSettings, List.forall_mem_append]
  refine ⟨⟨?_, ?_⟩, ?_⟩
  · cases ha : want.account with
    | none => simp
    | some account =>
      simp only [Option.map_some, Option.getD_some, accountSettings, List.forall_mem_cons]
      refine ⟨⟨rfl, rfl, by simp⟩, ⟨rfl, rfl, ?_⟩, ⟨?_, rfl, by simp⟩, by simp⟩
      · simp [passwordSettled]
      · simp only [lines_joined? (h.keys account ha) (ht account ha)]
  · cases hr : want.resolver with
    | none => simp
    | some resolver =>
      simp only [Option.map_some, Option.getD_some, resolverSettings, List.forall_mem_cons]
      refine ⟨⟨rfl, rfl, by simp⟩, ⟨?_, rfl, by simp⟩, by simp⟩
      simp only [words_joined? (h.servers resolver hr)]
  · intro s hs
    obtain ⟨n, -, rfl⟩ := List.mem_map.1 hs
    have hread : ipConfigText? ((ipConfigText? want.ipConfigs[n]?).map IpConfig.ofText) =
        ipConfigText? want.ipConfigs[n]? :=
      ipConfigText?_ofText fun c hc => h.addresses c (List.mem_of_getElem? hc)
    exact ⟨hread, rfl, fun h => by cases h⟩

/-! ## Plans as steps of the rules -/

/-- The steps of some settings, each by what its parameter says. -/
theorem steps_rules (settings : List InitSetting) (remote : Remote) :
    ParamRule.steps (settings.map InitSetting.rule) remote = settings.flatMap fun s =>
      if s.settled (remote.text? s.param) then [] else
        setOrDelete s.field s.param s.want (s.found (remote.text? s.param)) := by
  rw [ParamRule.steps, List.filterMap_map, List.filterMap_eq_flatMap_toList]
  exact List.flatMap_congr fun s _ => toList_step s _

theorem accountIntents_eq (want : Account) (remote : Remote) :
    accountIntents want remote.account =
      ParamRule.steps ((accountSettings want).map InitSetting.rule) remote := by
  rw [steps_rules, accountIntents, getD_account]
  simp [accountSettings]

theorem resolverIntents_eq (want : Resolver) (remote : Remote) :
    resolverIntents want remote.resolver =
      ParamRule.steps ((resolverSettings want).map InitSetting.rule) remote := by
  rw [steps_rules, resolverIntents, getD_resolver]
  simp [resolverSettings]

/-- Behind the last entry on either side nothing is wanted and nothing found. -/
theorem ipConfigIntents_eq {want : List IpConfig} (h : want.length ≤ Remote.maxIpConfigs) (remote : Remote) :
    ipConfigIntents want remote.ipConfigs =
      ParamRule.steps (((List.range Remote.maxIpConfigs).map (addressSetting want)).map InitSetting.rule)
        remote := by
  have hfound : remote.ipConfigs.length ≤ Remote.maxIpConfigs := by
    simpa [Remote.ipConfigs] using remote.slotCount_le IpConfig.slot Remote.maxIpConfigs
  obtain ⟨rest, hrest⟩ := Nat.exists_eq_add_of_le (Nat.max_le.2 ⟨h, hfound⟩)
  let compare (n : Nat) : List Intent := setOrDelete ("cloud_init.ip_config[" ++ Text.decimal n ++ "]")
    (IpConfig.slot n) (ipConfigText? want[n]?) (ipConfigText? remote.ipConfigs[n]?)
  have hbehind :
      ((List.range rest).map (max want.length remote.ipConfigs.length + ·)).flatMap compare = [] := by
    rw [List.flatMap_eq_nil_iff]
    intro n hn
    obtain ⟨k, -, rfl⟩ := List.mem_map.1 hn
    simp only [compare]
    rw [List.getElem?_eq_none (by omega), List.getElem?_eq_none (by omega)]
    rfl
  rw [steps_rules, List.flatMap_map]
  calc ipConfigIntents want remote.ipConfigs
    _ = (List.range Remote.maxIpConfigs).flatMap compare := by
      rw [hrest, List.range_add, List.flatMap_append, hbehind, List.append_nil]
      rfl
    _ = _ := List.flatMap_congr fun n hn => by
      simp only [compare, getElem?_ipConfigs remote (List.mem_range.1 hn)]
      rfl

/-- What is planned for the settings of an instance with a drive follows from its parameters one by one. -/
theorem cloudInitUpdates_eq {want : CloudInit} (h : want.ipConfigs.length ≤ Remote.maxIpConfigs)
    (remote : Remote) (slot store : String) :
    cloudInitUpdates want (some (remote.cloudInitAt slot store)) = ParamRule.steps (initRules want) remote := by
  rw [initRules, initSettings, List.map_append, List.map_append, ParamRule.steps_append,
    ParamRule.steps_append, ← ipConfigIntents_eq h, cloudInitUpdates]
  congr 2
  · cases want.account with
    | none => rfl
    | some account => exact accountIntents_eq account remote
  · cases want.resolver with
    | none => rfl
    | some resolver => exact resolverIntents_eq resolver remote

/-- Without a drive the settings are planned as if nothing were stored. -/
theorem cloudInitUpdates_none (want : CloudInit) (slot store : String) :
    cloudInitUpdates want none = cloudInitUpdates want (some (Remote.cloudInitAt .empty slot store)) := by
  have hcount : Remote.slotCount .empty IpConfig.slot Remote.maxIpConfigs = 0 := by decide +kernel
  have haddresses : Remote.ipConfigs .empty = [] := by rw [Remote.ipConfigs, hcount]; rfl
  simp only [cloudInitUpdates, Remote.cloudInitAt, haddresses]
  rfl

/-! ## What is left after the steps -/

theorem settles_initRules {want : CloudInit} (h : ∀ s ∈ initSettings want, s.Faithful) :
    ∀ r ∈ initRules want, r.Settles := by
  intro r hr
  obtain ⟨s, hs, rfl⟩ := List.mem_map.1 hr
  exact (h s hs).settles

/-- Steps that were planned without a look at the parameters leave behind exactly what had to be removed. -/
theorem steps_applyAll_unseen {want : CloudInit} (h : ∀ s ∈ initSettings want, s.Faithful) (remote : Remote) :
    ParamRule.steps (initRules want) (remote.applyAll (ParamRule.steps (initRules want) .empty)) =
      (ParamRule.steps (initRules want) remote).filter fun i => Plan.isDelete i.op := by
  rw [ParamRule.steps_applyAll_steps (names_initRules want) (settles_initRules h) (nodup_initRules want),
    ParamRule.steps, List.filter_filterMap]
  refine List.filterMap_congr fun r hr => ?_
  obtain ⟨s, hs, rfl⟩ := List.mem_map.1 hr
  have hnothing : s.rule.stepIn .empty = s.rule.step none := rfl
  have hdelete : ∀ i, s.rule.stepIn remote = some i → (Plan.isDelete i.op = s.want.isNone) := by
    intro i hi
    obtain ⟨-, rfl⟩ := InitSetting.step_eq_some_iff.1 hi
    rw [InitSetting.intent]
    cases s.want <;> rfl
  have hunseen : (s.rule.stepIn .empty).isSome = s.want.isSome := by
    rw [hnothing, Bool.eq_iff_iff, ← Bool.not_eq_false, Option.isSome_eq_false_iff, Option.isNone_iff_eq_none,
      (h s hs).step_none_iff]
    cases s.want <;> simp
  rw [hunseen]
  cases hstep : s.rule.stepIn remote with
  | none => simp
  | some i =>
    rw [Option.filter_some, hdelete i hstep]
    cases s.want <;> rfl

end Plan

end Steward
