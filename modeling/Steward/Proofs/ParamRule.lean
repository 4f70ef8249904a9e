/-
Configuration changes as rules, one for each parameter: what a rule asks for depends on nothing but what
its parameter holds, and once that has been carried out it asks for nothing more (`ParamRule.Settles`).
Rules of different parameters therefore do not disturb each other, and a list of changes that was carried
out in part, in whatever order, is resumed with exactly those that are left (`steps_applyAll`).
-/
import Mathlib
import Steward.Intent
import Steward.Proofs.Dict
import Steward.Remote

namespace Steward

/-! ## Carrying out changes -/

/-- What a change of the configuration leaves under its parameter. -/
def Operation.stored? : Operation → Option Json
  | update _ _ value => some (.string value)
  | _ => none

theorem Operation.isConfigChange_of_param? {op : Operation} {param : String} (h : op.param? = some param) :
    op.isConfigChange = true := by
  cases op <;> simp [param?, isConfigChange] at h ⊢

namespace Remote

/-- The configuration after a step: a parameter set to its text, or removed. -/
def apply (remote : Remote) (i : Intent) : Remote :=
  match i.op with
  | .update _ param value => remote.insert param (.string value)
  | .delete param => remote.erase param
  | _ => remote

def applyAll (remote : Remote) (steps : List Intent) : Remote := steps.foldl apply remote

theorem get?_apply (remote : Remote) (i : Intent) (key : String) :
    (remote.apply i).get? key = if i.op.param? = some key then i.op.stored? else remote.get? key := by
  obtain ⟨op, reason, dependency⟩ := i
  cases op <;> simp [apply, Operation.param?, Operation.stored?, Dict.get?_insert, Dict.get?_erase]

theorem get?_applyAll_other {remote : Remote} {steps : List Intent} {key : String}
    (h : ∀ i ∈ steps, i.op.param? ≠ some key) : (remote.applyAll steps).get? key = remote.get? key := by
  induction steps generalizing remote with
  | nil => rfl
  | cons i steps ih =>
    have hi : i.op.param? ≠ some key := h i (by simp)
    rw [applyAll, List.foldl_cons, ← applyAll, ih fun j hj => h j (List.mem_cons_of_mem _ hj), get?_apply,
      if_neg hi]

/-- Of changes to different parameters each one stands, whatever their order. -/
theorem get?_applyAll_of_mem {remote : Remote} {steps : List Intent} {i : Intent} {key : String}
    (hn : (steps.map (·.op.param?)).Nodup) (hi : i ∈ steps) (hkey : i.op.param? = some key) :
    (remote.applyAll steps).get? key = i.op.stored? := by
  induction steps generalizing remote with
  | nil => simp at hi
  | cons j steps ih =>
    rw [List.map_cons, List.nodup_cons] at hn
    rw [applyAll, List.foldl_cons, ← applyAll]
    rcases List.mem_cons.1 hi with rfl | hi
    · have hother : ∀ k ∈ steps, k.op.param? ≠ some key := by
        intro k hk he
        exact hn.1 (List.mem_map.2 ⟨k, hk, he.trans hkey.symm⟩)
      rw [get?_applyAll_other hother, get?_apply, if_pos hkey]
    · exact ih hn.2 hi

end Remote

/-! ## Rules -/

/-- How one parameter is brought to what is wanted: the step that follows from what it holds. -/
structure ParamRule where
  param : String
  step : Option Json → Option Intent

namespace ParamRule

def stepIn (r : ParamRule) (remote : Remote) : Option Intent := r.step (remote.get? r.param)

/-- The steps of some rules, in their order. -/
def steps (rules : List ParamRule) (remote : Remote) : List Intent := rules.filterMap fun r => r.stepIn remote

/-- A rule changes its own parameter only. -/
def Names (r : ParamRule) : Prop := ∀ value i, r.step value = some i → i.op.param? = some r.param

/-- A rule is satisfied with what it writes. -/
def Settles (r : ParamRule) : Prop := ∀ value i, r.step value = some i → r.step i.op.stored? = none

variable {rules : List ParamRule} {remote : Remote}

theorem steps_append (xs ys : List ParamRule) (remote : Remote) :
    steps (xs ++ ys) remote = steps xs remote ++ steps ys remote := List.filterMap_append

theorem exists_rule_of_mem_steps (hp : ∀ r ∈ rules, r.Names) {i : Intent} (hi : i ∈ steps rules remote) :
    ∃ r ∈ rules, i.op.param? = some r.param ∧ r.stepIn remote = some i := by
  obtain ⟨r, hr, hstep⟩ := List.mem_filterMap.1 hi
  exact ⟨r, hr, hp r hr _ _ hstep, hstep⟩

/-- A step on the parameter of a rule is the step of this rule. -/
theorem stepIn_of_mem_steps (hp : ∀ r ∈ rules, r.Names) (hn : (rules.map param).Nodup) {i : Intent}
    (hi : i ∈ steps rules remote) {r : ParamRule} (hr : r ∈ rules) (hparam : i.op.param? = some r.param) :
    r.stepIn remote = some i := by
  obtain ⟨q, hq, hqparam, hstep⟩ := exists_rule_of_mem_steps hp hi
  have heq : q.param = r.param := Option.some.inj (hqparam.symm.trans hparam)
  rwa [← List.inj_on_of_nodup_map hn hq hr heq]

/-- The steps change parameters of the rules, in their order. -/
theorem params_steps (hp : ∀ r ∈ rules, r.Names) (remote : Remote) :
    ((steps rules remote).map (·.op.param?)).Sublist (rules.map fun r => some r.param) := by
  induction rules with
  | nil => exact List.Sublist.refl _
  | cons r rules ih =>
    have hrest := ih fun q hq => hp q (List.mem_cons_of_mem _ hq)
    rw [steps, List.filterMap_cons]
    cases hr : r.stepIn remote with
    | none => exact hrest.cons _
    | some i =>
      rw [List.map_cons, List.map_cons, hp r (by simp) _ _ hr]
      exact hrest.cons_cons _

theorem nodup_steps (hp : ∀ r ∈ rules, r.Names) (hn : (rules.map param).Nodup) :
    ((steps rules remote).map (·.op.param?)).Nodup := by
  refine List.Nodup.sublist (params_steps hp remote) ?_
  rw [← Function.comp_def, ← List.map_map]
  exact hn.map (Option.some_injective _)

theorem nodup_of_subperm (hp : ∀ r ∈ rules, r.Names) (hn : (rules.map param).Nodup) {done : List Intent}
    (hd : done.Subperm (steps rules remote)) : (done.map (·.op.param?)).Nodup := by
  obtain ⟨sorted, hperm, hsub⟩ := hd
  exact (hperm.map _).nodup_iff.1 ((nodup_steps hp hn).sublist (hsub.map _))

/-- One rule after some of the steps: it asks for its step again unless that is among them. -/
theorem stepIn_applyAll (hp : ∀ r ∈ rules, r.Names) (hs : ∀ r ∈ rules, r.Settles)
    (hn : (rules.map param).Nodup) {done : List Intent}
    (hd : done.Subperm (steps rules remote)) {r : ParamRule} (hr : r ∈ rules) :
    r.stepIn (remote.applyAll done) = (r.stepIn remote).filter fun i => decide (i ∉ done) := by
  have hdone := nodup_of_subperm hp hn hd
  by_cases htouched : ∃ i ∈ done, i.op.param? = some r.param
  · obtain ⟨i, hi, hparam⟩ := htouched
    have hstep := stepIn_of_mem_steps hp hn (hd.subset hi) hr hparam
    rw [hstep, stepIn, Remote.get?_applyAll_of_mem hdone hi hparam, hs r hr _ _ hstep]
    simp [Option.filter_some, hi]
  · push Not at htouched
    rw [stepIn, Remote.get?_applyAll_other htouched, ← stepIn]
    cases hstep : r.stepIn remote with
    | none => rfl
    | some i =>
      have hi : i ∉ done := fun hi => htouched i hi (hp r hr _ _ hstep)
      simp [Option.filter_some, hi]

/-- What is left to do after some of the steps are the other ones, unchanged and in their order. -/
theorem steps_applyAll (hp : ∀ r ∈ rules, r.Names) (hs : ∀ r ∈ rules, r.Settles)
    (hn : (rules.map param).Nodup) {done : List Intent} (hd : done.Subperm (steps rules remote)) :
    steps rules (remote.applyAll done) = (steps rules remote).filter fun i => decide (i ∉ done) := by
  rw [steps, steps, List.filter_filterMap]
  exact List.filterMap_congr fun r hr => stepIn_applyAll hp hs hn hd hr

/-- Steps that were planned from other values: a rule that asked for one is satisfied, and each other one asks
for what it would have asked for. -/
theorem steps_applyAll_steps (hp : ∀ r ∈ rules, r.Names) (hs : ∀ r ∈ rules, r.Settles)
    (hn : (rules.map param).Nodup) (seen : Remote) :
    steps rules (remote.applyAll (steps rules seen)) =
      rules.filterMap fun r => if (r.stepIn seen).isSome then none else r.stepIn remote := by
  refine List.filterMap_congr fun r hr => ?_
  cases hstep : r.stepIn seen with
  | some i =>
    have hi : i ∈ steps rules seen := List.mem_filterMap.2 ⟨r, hr, hstep⟩
    rw [stepIn, Remote.get?_applyAll_of_mem (nodup_steps hp hn) hi (hp r hr _ _ hstep), hs r hr _ _ hstep]
    rfl
  | none =>
    have hother : ∀ i ∈ steps rules seen, i.op.param? ≠ some r.param := by
      intro i hi hparam
      rw [stepIn_of_mem_steps hp hn hi hr hparam] at hstep
      cases hstep
    rw [stepIn, Remote.get?_applyAll_other hother]
    rfl

end ParamRule

end Steward
