/-
Maps through what is under each key: lists of entries looked up one part after the other, maps made of
lists (of two entries under one key the later one counts), and entries as members.
-/
import Mathlib
import Steward.Dict

namespace Steward

variable {α : Type}

theorem lookup?_append (xs ys : List (String × α)) (key : String) :
    lookup? (xs ++ ys) key = (lookup? xs key).or (lookup? ys key) := by
  simp only [lookup?, List.find?_append]
  cases xs.find? (fun e => e.1 == key) <;> simp

theorem lookup?_ite (c : Prop) [Decidable c] (xs : List (String × α)) (key : String) :
    lookup? (if c then xs else []) key = if c then lookup? xs key else none := by
  split <;> rfl

theorem lookup?_eq_none_iff {entries : List (String × α)} {key : String} :
    lookup? entries key = none ↔ key ∉ entries.map (·.1) := by
  simp only [lookup?, Option.map_eq_none_iff, List.find?_eq_none, beq_iff_eq, List.mem_map, not_exists,
    not_and]

theorem mem_of_lookup? {entries : List (String × α)} {key : String} {value : α}
    (h : lookup? entries key = some value) : (key, value) ∈ entries := by
  obtain ⟨e, he, rfl⟩ := Option.map_eq_some_iff.1 h
  have hkey : e.1 = key := by simpa using List.find?_some he
  exact hkey ▸ List.mem_of_find?_eq_some he

/-- Where no key stands twice, every entry is found under its key. -/
theorem lookup?_of_mem {entries : List (String × α)} {key : String} {value : α}
    (hn : (entries.map (·.1)).Nodup) (h : (key, value) ∈ entries) : lookup? entries key = some value := by
  induction entries with
  | nil => simp at h
  | cons e rest ih =>
    rw [List.map_cons, List.nodup_cons] at hn
    rw [lookup?_cons]
    rcases List.mem_cons.1 h with rfl | h
    · rw [if_pos rfl]
    · have hne : e.1 ≠ key := fun he => hn.1 (he ▸ List.mem_map_of_mem (f := (·.1)) h)
      rw [if_neg hne, ih hn.2 h]

/-- Values that are changed by their keys. -/
theorem lookup?_map_keyed {β : Type} (f : String → α → β) (entries : List (String × α)) (key : String) :
    lookup? (entries.map fun e => (e.1, f e.1 e.2)) key = (lookup? entries key).map (f key) := by
  induction entries with
  | nil => rfl
  | cons e rest ih =>
    rw [List.map_cons, lookup?_cons, lookup?_cons, ih]
    split
    · rename_i hkey
      rw [hkey, Option.map_some]
    · rfl

theorem lookup?_map {β : Type} (f : α → β) (entries : List (String × α)) (key : String) :
    lookup? (entries.map fun e => (e.1, f e.2)) key = (lookup? entries key).map f :=
  lookup?_map_keyed (fun _ => f) entries key

/-- One entry for each name at most: what is found under a name is its own value. -/
theorem lookup?_filterMap {ι : Type} [DecidableEq ι] {name : ι → String} (hn : Function.Injective name)
    (value : ι → Option α) (names : List ι) (i : ι) :
    lookup? (names.filterMap fun j => (value j).map fun v => (name j, v)) (name i) =
    if i ∈ names then value i else none := by
  induction names with
  | nil => rfl
  | cons j names ih =>
    rw [List.filterMap_cons]
    cases hj : value j with
    | none =>
      rw [Option.map_none, ih]
      by_cases he : i = j
      · subst he
        simp [hj]
      · simp [he]
    | some v =>
      rw [Option.map_some, lookup?_cons, ih]
      by_cases he : i = j
      · subst he
        simp [hj]
      · have hne : name j ≠ name i := fun h => he (hn h).symm
        simp [he, hne]

theorem keys_filterMap {ι : Type} (name : ι → String) (value : ι → Option α) (names : List ι) :
    ((names.filterMap fun i => (value i).map fun v => (name i, v)).map (·.1)).Sublist (names.map name) := by
  induction names with
  | nil => exact List.Sublist.refl _
  | cons i names ih =>
    rw [List.filterMap_cons]
    cases value i with
    | none => exact ih.cons _
    | some v => exact ih.cons_cons _

theorem lookup?_eq_none_of_keys {entries : List (String × α)} {keys : List String} {key : String}
    (h : entries.map (·.1) ⊆ keys) (hk : key ∉ keys) : lookup? entries key = none :=
  lookup?_eq_none_iff.2 fun hmem => hk (h hmem)

namespace Dict

@[ext] theorem ext {a b : Dict α} (h : ∀ key, a.get? key = b.get? key) : a = b := ext_get? h

theorem nodup_keys (d : Dict α) : d.keys.Nodup := by
  refine List.pairwise_map.2 (d.ascending.imp fun hlt he => ?_)
  rw [he] at hlt
  exact String.lt_irrefl _ hlt

theorem mem_entries_iff {d : Dict α} {key : String} {value : α} :
    (key, value) ∈ d.entries ↔ d.get? key = some value :=
  ⟨lookup?_of_mem d.nodup_keys, mem_of_lookup?⟩

theorem mem_keys_iff {d : Dict α} {key : String} : key ∈ d.keys ↔ (d.get? key).isSome := by
  rw [← not_iff_not, Option.not_isSome_iff_eq_none]
  exact lookup?_eq_none_iff.symm

theorem contains_eq (d : Dict α) (key : String) : d.contains key = (d.get? key).isSome := by
  rw [Bool.eq_iff_iff, ← mem_keys_iff]
  simp [contains, keys]

theorem get?_foldl_insert (entries : List (String × α)) (d : Dict α) (key : String) :
    (entries.foldl (fun d e => d.insert e.1 e.2) d).get? key = (lookup? entries.reverse key).or
      (d.get? key) := by
  induction entries generalizing d with
  | nil => simp
  | cons e rest ih =>
    rw [List.foldl_cons, ih, List.reverse_cons, lookup?_append, get?_insert, lookup?_cons, lookup?_nil]
    cases lookup? rest.reverse key <;> by_cases he : e.1 = key <;> simp [he]

theorem get?_ofList (entries : List (String × α)) (key : String) :
    (ofList entries).get? key = lookup? entries.reverse key := by
  rw [ofList, get?_foldl_insert, get?_empty, Option.or_none]

theorem get?_ofList_append (xs ys : List (String × α)) (key : String) :
    (ofList (xs ++ ys)).get? key = ((ofList ys).get? key).or ((ofList xs).get? key) := by
  simp only [get?_ofList, List.reverse_append, lookup?_append]

theorem mem_keys_ofList {entries : List (String × α)} {key : String} :
    key ∈ (ofList entries).keys ↔ key ∈ entries.map (·.1) := by
  rw [mem_keys_iff, get?_ofList, ← not_iff_not, Option.not_isSome_iff_eq_none, lookup?_eq_none_iff]
  simp

theorem isEmpty_congr {β : Type} {a : Dict α} {b : Dict β} (h : ∀ key, key ∈ a.keys ↔ key ∈ b.keys) :
    a.isEmpty = b.isEmpty := by
  have hkeys : a.keys = [] ↔ b.keys = [] := by simp only [List.eq_nil_iff_forall_not_mem, h]
  rw [keys, keys, List.map_eq_nil_iff, List.map_eq_nil_iff] at hkeys
  rw [isEmpty, isEmpty, Bool.eq_iff_iff, List.isEmpty_iff, List.isEmpty_iff, hkeys]

/-- Where no key stands twice, the order of the entries does not matter. -/
theorem get?_ofList_of_nodup {entries : List (String × α)} (hn : (entries.map (·.1)).Nodup) (key : String) :
    (ofList entries).get? key = lookup? entries key := by
  rw [get?_ofList]
  cases h : lookup? entries key with
  | none =>
    rw [lookup?_eq_none_iff] at h ⊢
    simpa using h
  | some value =>
    refine lookup?_of_mem ?_ (by simpa using mem_of_lookup? h)
    simpa [List.nodup_reverse] using hn

theorem get?_ofList_eq_some_iff {entries : List (String × α)} (hn : (entries.map (·.1)).Nodup)
    {key : String} {value : α} :
    (ofList entries).get? key = some value ↔ (key, value) ∈ entries := by
  rw [get?_ofList_of_nodup hn]
  exact ⟨mem_of_lookup?, lookup?_of_mem hn⟩

/-- Entries under different keys make the same map in every order. -/
theorem ofList_perm {xs ys : List (String × α)} (hn : (xs.map (·.1)).Nodup) (h : xs.Perm ys) :
    ofList xs = ofList ys := by
  have hn' : (ys.map (·.1)).Nodup := (h.map _).nodup_iff.1 hn
  refine ext fun key => Option.ext fun value => ?_
  rw [get?_ofList_eq_some_iff hn, get?_ofList_eq_some_iff hn', h.mem_iff]

theorem ofList_entries (d : Dict α) : ofList d.entries = d :=
  ext fun key => get?_ofList_of_nodup d.nodup_keys key

end Dict

/-- Sets with the same names are the same. -/
theorem NameSet.ext_keys {s t : NameSet} (h : ∀ name, name ∈ s.keys ↔ name ∈ t.keys) : s = t := by
  refine Dict.ext fun name => Option.ext fun value => ?_
  have hname := h name
  rw [Dict.mem_keys_iff, Dict.mem_keys_iff, Option.isSome_iff_exists, Option.isSome_iff_exists] at hname
  exact ⟨fun hs => hname.1 ⟨value, hs⟩ |>.elim fun _ ht => ht, fun ht => hname.2 ⟨value, ht⟩ |>.elim fun _ hs => hs⟩

theorem NameSet.mem_keys_ofList {names : List String} {name : String} :
    name ∈ (NameSet.ofList names).keys ↔ name ∈ names := by
  rw [NameSet.ofList, Dict.mem_keys_ofList, List.map_map]
  exact iff_of_eq (congrArg (name ∈ ·) (List.map_id names))

theorem NameSet.ofList_keys (s : NameSet) : NameSet.ofList s.keys = s := by
  have : s.keys.map (fun n => (n, ())) = s.entries := by
    rw [Dict.keys, List.map_map]
    exact List.map_id s.entries
  rw [NameSet.ofList, this, Dict.ofList_entries]

end Steward
