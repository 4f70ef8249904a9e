/-
Failures as one. Gathering loses none of them and keeps their order (`leaves_aggregate`). Where no gathered failure
stands inside another, the result is determined by the failures that are gathered, however they were grouped
before (`aggregate_composes`).
-/
import Mathlib
import Steward.Reconcile

namespace Steward

namespace Failure

def isGathered : Failure → Bool
  | several _ => true
  | _ => false

mutual

/-- The failures that a failure consists of, none of them gathered, from left to right. -/
def leaves : Failure → List Failure
  | several failures => leavesOf failures
  | failure => [failure]

def leavesOf : List Failure → List Failure
  | [] => []
  | failure :: failures => failure.leaves ++ leavesOf failures

end

/-- No gathered failure stands inside another. -/
def Shallow (failures : List Failure) : Prop :=
  ∀ inner, several inner ∈ failures → ∀ failure ∈ inner, failure.isGathered = false

/-- What becomes of failures that are gathered: they are kept in their order, and only more than one of them is
wrapped. -/
structure Gathers (failures : List Failure) (result : Option Failure) : Prop where
  kept : result.toList.flatMap leaves = failures.flatMap leaves
  nothing : failures.flatMap leaves = [] → result = none
  single : ∀ failure, failures.flatMap leaves = [failure] → result = some failure
  many : 1 < (failures.flatMap leaves).length →
    ∃ inner, result = some (several inner) ∧ ∀ failure ∈ inner, failure.isGathered = false

theorem leavesOf_eq (failures : List Failure) : leavesOf failures = failures.flatMap leaves := by
  induction failures with
  | nil => rfl
  | cons failure failures ih => rw [leavesOf, List.flatMap_cons, ih]

/-- What is not gathered consists of itself. -/
theorem gathered_or_plain (failure : Failure) : (∃ inner, failure = several inner) ∨
    (failure.isGathered = false ∧ failure.parts = [failure] ∧ failure.leaves = [failure]) := by
  cases failure with
  | several inner => exact .inl ⟨inner, rfl⟩
  | configuration | notFound | ownership | unsupported | transient | api | timeout =>
    exact .inr ⟨rfl, rfl, by rw [leaves]; simp⟩

theorem plain_of_isGathered {failure : Failure} (h : failure.isGathered = false) :
    failure.parts = [failure] ∧ failure.leaves = [failure] := by
  obtain ⟨inner, rfl⟩ | ⟨-, hplain⟩ := failure.gathered_or_plain
  · cases h
  · exact hplain

theorem flatMap_leaves_of_plain {failures : List Failure} (h : ∀ failure ∈ failures, failure.isGathered = false) :
    failures.flatMap leaves = failures := by
  rw [List.flatMap_congr fun failure hmem => (plain_of_isGathered (h failure hmem)).2, List.flatMap_singleton']

theorem flatMap_leaves_parts (failures : List Failure) :
    (failures.flatMap parts).flatMap leaves = failures.flatMap leaves := by
  rw [List.flatMap_assoc]
  refine List.flatMap_congr fun failure _ => ?_
  obtain ⟨inner, rfl⟩ | ⟨-, hparts, -⟩ := failure.gathered_or_plain
  · exact (leavesOf_eq inner).symm
  · rw [hparts, List.flatMap_singleton]

/-! ## Gathering -/

/-- What is made of failures, by how many there are. -/
theorem aggregate_cases (failures : List Failure) :
    (failures.flatMap parts = [] ∧ aggregate failures = none) ∨
      (∃ failure, failures.flatMap parts = [failure] ∧ aggregate failures = some failure) ∨
      (1 < (failures.flatMap parts).length ∧ aggregate failures = some (several (failures.flatMap parts))) := by
  rw [aggregate]
  cases failures.flatMap parts with
  | nil => exact .inl ⟨rfl, rfl⟩
  | cons failure rest =>
    cases rest with
    | nil => exact .inr (.inl ⟨failure, rfl, rfl⟩)
    | cons => exact .inr (.inr ⟨by simp, rfl⟩)

/-- Nothing is lost, whatever stands inside what. -/
theorem leaves_aggregate (failures : List Failure) :
    (aggregate failures).toList.flatMap leaves = failures.flatMap leaves := by
  rw [← flatMap_leaves_parts failures]
  obtain ⟨hall, hresult⟩ | ⟨failure, hall, hresult⟩ | ⟨-, hresult⟩ := aggregate_cases failures
  · rw [hresult, hall]
    rfl
  · rw [hresult, hall]
    rfl
  · rw [hresult, Option.toList_some, List.flatMap_singleton, leaves, leavesOf_eq]

theorem aggregate_congr {xs ys : List Failure} (h : xs.flatMap parts = ys.flatMap parts) :
    aggregate xs = aggregate ys := by
  rw [aggregate, aggregate, h]

theorem shallow_iff {failures : List Failure} :
    Shallow failures ↔ ∀ failure ∈ failures.flatMap parts, failure.isGathered = false := by
  constructor
  · intro h failure hmem
    obtain ⟨whole, hwhole, hpart⟩ := List.mem_flatMap.1 hmem
    obtain ⟨inner, rfl⟩ | ⟨hplain, hparts, -⟩ := whole.gathered_or_plain
    · exact h inner hwhole failure hpart
    · rw [hparts, List.mem_singleton] at hpart
      rwa [hpart]
  · exact fun h inner hinner failure hmem => h failure (List.mem_flatMap.2 ⟨several inner, hinner, hmem⟩)

instance (failures : List Failure) : Decidable (Shallow failures) := decidable_of_iff _ shallow_iff.symm

namespace Shallow

variable {failures : List Failure}

theorem flatMap_parts (h : Shallow failures) : failures.flatMap parts = failures.flatMap leaves := by
  rw [← flatMap_leaves_parts, flatMap_leaves_of_plain (shallow_iff.1 h)]

theorem gathers (h : Shallow failures) : Gathers failures (aggregate failures) := by
  refine ⟨leaves_aggregate failures, fun hleaves => ?_, fun failure hleaves => ?_, fun hlength => ?_⟩
  · rw [aggregate, h.flatMap_parts, hleaves]
  · rw [aggregate, h.flatMap_parts, hleaves]
  · rw [← h.flatMap_parts] at hlength
    obtain ⟨hall, -⟩ | ⟨failure, hall, -⟩ | ⟨-, hresult⟩ := aggregate_cases failures
    · simp [hall] at hlength
    · simp [hall] at hlength
    · exact ⟨failures.flatMap parts, hresult, shallow_iff.1 h⟩

/-- To gather again what was gathered changes nothing. -/
theorem parts_aggregate (h : Shallow failures) :
    (aggregate failures).toList.flatMap parts = failures.flatMap parts := by
  have hplain := shallow_iff.1 h
  obtain ⟨hall, hresult⟩ | ⟨failure, hall, hresult⟩ | ⟨-, hresult⟩ := aggregate_cases failures
  · rw [hresult, hall]
    rfl
  · rw [hall] at hplain ⊢
    rw [hresult, Option.toList_some, List.flatMap_singleton]
    exact (plain_of_isGathered (hplain failure List.mem_cons_self)).1
  · rw [hresult, Option.toList_some, List.flatMap_singleton]
    rfl

end Shallow

/-- Groups of failures that are gathered one by one, and then all together. -/
theorem aggregate_filterMap {groups : List (List Failure)} (h : ∀ failures ∈ groups, Shallow failures) :
    aggregate (groups.filterMap aggregate) = aggregate groups.flatten := by
  refine aggregate_congr ?_
  induction groups with
  | nil => rfl
  | cons failures groups ih =>
    have hrest := ih fun other hmem => h other (List.mem_cons_of_mem _ hmem)
    rw [List.filterMap_eq_flatMap_toList] at hrest ⊢
    rw [List.flatMap_cons, List.flatMap_append, (h failures List.mem_cons_self).parts_aggregate, hrest,
      List.flatten_cons, List.flatMap_append]

/-- Where no gathered failure stands inside another, gathering keeps the failures in their order: none of them
makes none, one is itself, and more make one gathered failure with no other inside. Two lists that are gathered
and put together make what the whole list makes, and so do the failures of passes. -/
theorem aggregate_composes :
    (∀ failures, Shallow failures → Gathers failures (aggregate failures)) ∧
      (∀ xs ys, Shallow xs → Shallow ys →
        aggregate ((aggregate xs).toList ++ (aggregate ys).toList) = aggregate (xs ++ ys)) ∧
      ∀ reports : List Report, (∀ report ∈ reports, Shallow report.failures) →
        aggregate (reports.filterMap Report.failure?) = aggregate (reports.flatMap Report.failures) := by
  refine ⟨fun _ h => h.gathers, fun xs ys hx hy => aggregate_congr ?_, fun reports h => ?_⟩
  · rw [List.flatMap_append, List.flatMap_append, hx.parts_aggregate, hy.parts_aggregate]
  · have hgroups : aggregate ((reports.map Report.failures).filterMap aggregate) =
        aggregate (reports.map Report.failures).flatten := aggregate_filterMap (by simpa using h)
    rwa [List.filterMap_map, ← List.flatMap_def] at hgroups

/-- The failures of two passes, with nothing and with only one gathered in some of them. -/
def nestedFailures : List Failure × List Failure :=
  ([timeout "start", several []], [several [api "a"], several [notFound "b", api "c"]])

theorem aggregate_composes_nestedFailures :
    Shallow nestedFailures.1 ∧ Shallow nestedFailures.2 ∧
      aggregate nestedFailures.1 = some (timeout "start") ∧
      aggregate ((aggregate nestedFailures.1).toList ++ (aggregate nestedFailures.2).toList) =
        some (several [timeout "start", api "a", notFound "b", api "c"]) := by
  obtain ⟨hgathers, hcomposes, -⟩ := aggregate_composes
  have hfirst : Shallow nestedFailures.1 := by decide
  have hsecond : Shallow nestedFailures.2 := by decide
  exact ⟨hfirst, hsecond, (hgathers _ hfirst).single (timeout "start") (by simp [nestedFailures, leaves, leavesOf]),
    hcomposes _ _ hfirst hsecond⟩

-- what stands deeper is not reached at once
example : aggregate [several [several [api "a"]]] = some (several [api "a"]) := rfl

end Failure

end Steward
