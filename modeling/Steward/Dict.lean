/-
Finite maps from names, kept in the order of the names (by code point), so that two maps with the same
entries are the same value (`Dict.ext_get?`). A set of names is a map to `Unit`.
-/
namespace Steward

/-- The entries with `value` under `key`, at its place in the order. -/
def insertEntry {α : Type} (key : String) (value : α) : List (String × α) → List (String × α)
  | [] => [(key, value)]
  | e :: rest =>
    if key < e.1 then (key, value) :: e :: rest
    else if key = e.1 then (key, value) :: rest
    else e :: insertEntry key value rest

theorem mem_insertEntry {α : Type} {key : String} {value : α} {e : String × α} :
    ∀ {entries : List (String × α)}, e ∈ insertEntry key value entries → e = (key, value) ∨ e ∈ entries
  | [], h => by simpa [insertEntry] using h
  | d :: rest, h => by
    unfold insertEntry at h
    split at h
    · simpa using h
    · split at h
      · rcases List.mem_cons.1 h with h | h
        · exact .inl h
        · exact .inr (List.mem_cons_of_mem _ h)
      · rcases List.mem_cons.1 h with h | h
        · exact .inr (by simp [h])
        · rcases mem_insertEntry h with h | h
          · exact .inl h
          · exact .inr (List.mem_cons_of_mem _ h)

/-- Entries in strictly ascending order of their keys. -/
def Ascending {α : Type} (entries : List (String × α)) : Prop := entries.Pairwise fun a b => a.1 < b.1

theorem ascending_insertEntry {α : Type} (key : String) (value : α) :
    ∀ {entries : List (String × α)}, Ascending entries → Ascending (insertEntry key value entries)
  | [], _ => by simp [insertEntry, Ascending]
  | e :: rest, h => by
    have hr := (List.pairwise_cons.1 h)
    unfold insertEntry
    split
    · rename_i hlt
      refine List.pairwise_cons.2 ⟨fun d hd => ?_, h⟩
      rcases List.mem_cons.1 hd with rfl | hd
      · exact hlt
      · exact String.lt_trans hlt (hr.1 d hd)
    · split
      · rename_i heq
        exact List.pairwise_cons.2 ⟨fun d hd => heq ▸ hr.1 d hd, hr.2⟩
      · rename_i hlt hne
        refine List.pairwise_cons.2 ⟨fun d hd => ?_, ascending_insertEntry key value hr.2⟩
        rcases mem_insertEntry hd with rfl | hd
        · refine String.not_le.1 fun hle => hne (String.le_antisymm hle (String.not_lt.1 hlt))
        · exact hr.1 d hd

/-- The value under a key among some entries. -/
def lookup? {α : Type} (entries : List (String × α)) (key : String) : Option α :=
  (entries.find? fun e => e.1 == key).map (·.2)

@[simp] theorem lookup?_nil {α : Type} (key : String) : lookup? ([] : List (String × α)) key = none := rfl

theorem lookup?_cons {α : Type} (e : String × α) (rest : List (String × α)) (key : String) :
    lookup? (e :: rest) key = if e.1 = key then some e.2 else lookup? rest key := by
  by_cases h : e.1 = key
  · simp [lookup?, h]
  · have : (e.1 == key) = false := by simpa using h
    simp [lookup?, h, this]

theorem lookup?_insertEntry {α : Type} (key : String) (value : α) (k : String) :
    ∀ entries : List (String × α),
      lookup? (insertEntry key value entries) k = if key = k then some value else lookup? entries k
  | [] => by simp [insertEntry, lookup?_cons]
  | e :: rest => by
    unfold insertEntry
    split
    · rw [lookup?_cons]
    · split
      · rename_i h
        rw [lookup?_cons, lookup?_cons, ← h]
        split <;> simp_all
      · rename_i h
        rw [lookup?_cons, lookup?_cons, lookup?_insertEntry key value k rest]
        by_cases hk : key = k
        · have : e.1 ≠ k := fun he => h (hk.trans he.symm)
          simp [hk, this]
        · simp [hk]

theorem lookup?_without {α : Type} (key k : String) : ∀ entries : List (String × α),
    lookup? (entries.filter fun e => e.1 != key) k = if key = k then none else lookup? entries k
  | [] => by simp
  | e :: rest => by
    have ih := lookup?_without key k rest
    rw [List.filter_cons, lookup?_cons]
    by_cases he : e.1 = key
    · rw [if_neg (by simp [he]), ih, he]
      by_cases hk : key = k <;> simp [hk]
    · rw [if_pos (by simpa using he), lookup?_cons, ih]
      by_cases hk : e.1 = k
      · rw [if_pos hk, if_pos hk, if_neg fun h => he (hk.trans h.symm)]
      · rw [if_neg hk, if_neg hk]

/-- What lies before all keys of ascending entries is under none of them. -/
theorem lookup?_eq_none_of_lt {α : Type} {key : String} :
    ∀ {entries : List (String × α)}, (∀ e ∈ entries, key < e.1) → lookup? entries key = none
  | [], _ => rfl
  | e :: rest, h => by
    have hne : e.1 ≠ key := fun he => String.lt_irrefl key (by have := h e (by simp); rwa [he] at this)
    rw [lookup?_cons, if_neg hne]
    exact lookup?_eq_none_of_lt fun d hd => h d (List.mem_cons_of_mem _ hd)

/-- Ascending entries are determined by what is under each key. -/
theorem Ascending.ext {α : Type} : ∀ {xs ys : List (String × α)}, Ascending xs → Ascending ys →
    (∀ key, lookup? xs key = lookup? ys key) → xs = ys
  | [], [], _, _, _ => rfl
  | [], y :: ys, _, _, h => by simpa [lookup?_cons] using h y.1
  | x :: xs, [], _, _, h => by simpa [lookup?_cons] using h x.1
  | x :: xs, y :: ys, hx, hy, h => by
    have hxs := List.pairwise_cons.1 hx
    have hys := List.pairwise_cons.1 hy
    have hkey : x.1 = y.1 := by
      refine String.le_antisymm (String.not_lt.1 fun hlt => ?_) (String.not_lt.1 fun hlt => ?_)
      · have : lookup? (x :: xs) y.1 = none := lookup?_eq_none_of_lt fun d hd => by
          rcases List.mem_cons.1 hd with rfl | hd
          · exact hlt
          · exact String.lt_trans hlt (hxs.1 d hd)
        rw [h, lookup?_cons] at this
        simp at this
      · have : lookup? (y :: ys) x.1 = none := lookup?_eq_none_of_lt fun d hd => by
          rcases List.mem_cons.1 hd with rfl | hd
          · exact hlt
          · exact String.lt_trans hlt (hys.1 d hd)
        rw [← h, lookup?_cons] at this
        simp at this
    have hvalue : x.2 = y.2 := by
      have := h x.1
      rw [lookup?_cons, lookup?_cons] at this
      simpa [hkey] using this
    have hrest : xs = ys := Ascending.ext hxs.2 hys.2 fun key => by
      by_cases hk : x.1 = key
      · rw [lookup?_eq_none_of_lt fun d hd => hk ▸ hxs.1 d hd,
          lookup?_eq_none_of_lt fun d hd => (hkey.symm.trans hk) ▸ hys.1 d hd]
      · have := h key
        rwa [lookup?_cons, lookup?_cons, if_neg hk, if_neg fun hy => hk (hkey.trans hy)] at this
    rw [hrest, Prod.ext hkey hvalue]

/-- A map from names to `α`. -/
structure Dict (α : Type) where
  entries : List (String × α)
  ascending : Ascending entries

namespace Dict

variable {α β : Type}

def empty : Dict α := ⟨[], List.Pairwise.nil⟩

instance : Inhabited (Dict α) := ⟨empty⟩

/-- The map with `value` under `key` and all else as it was. -/
def insert (d : Dict α) (key : String) (value : α) : Dict α :=
  ⟨insertEntry key value d.entries, ascending_insertEntry key value d.ascending⟩

def erase (d : Dict α) (key : String) : Dict α :=
  ⟨d.entries.filter (fun e => e.1 != key), d.ascending.filter _⟩

def get? (d : Dict α) (key : String) : Option α := lookup? d.entries key

def contains (d : Dict α) (key : String) : Bool := d.entries.any (fun e => e.1 == key)

def keys (d : Dict α) : List String := d.entries.map (·.1)

def values (d : Dict α) : List α := d.entries.map (·.2)

def isEmpty (d : Dict α) : Bool := d.entries.isEmpty

def size (d : Dict α) : Nat := d.entries.length

/-- The map with some entries, a later one in the place of an earlier one under the same key. -/
def ofList (entries : List (String × α)) : Dict α := entries.foldl (fun d e => d.insert e.1 e.2) empty

/-- The map with `f` applied to every value. -/
def map (f : α → β) (d : Dict α) : Dict β :=
  ⟨d.entries.map fun e => (e.1, f e.2), by
    simpa [Ascending, List.pairwise_map] using d.ascending⟩

@[simp] theorem get?_empty (key : String) : (empty : Dict α).get? key = none := rfl

theorem get?_insert (d : Dict α) (key : String) (value : α) (k : String) :
    (d.insert key value).get? k = if key = k then some value else d.get? k :=
  lookup?_insertEntry key value k d.entries

theorem get?_erase (d : Dict α) (key k : String) :
    (d.erase key).get? k = if key = k then none else d.get? k :=
  lookup?_without key k d.entries

/-- Maps with the same values under the same keys are the same. -/
theorem ext_get? {a b : Dict α} (h : ∀ key, a.get? key = b.get? key) : a = b := by
  cases a with
  | mk xs hx =>
    cases b with
    | mk ys hy => cases Ascending.ext hx hy h; rfl

instance [BEq α] : BEq (Dict α) := ⟨fun a b => a.entries == b.entries⟩

instance [DecidableEq α] : DecidableEq (Dict α) := fun a b =>
  if h : a.entries = b.entries then isTrue (by cases a; cases b; simp_all)
  else isFalse (fun e => h (congrArg entries e))

end Dict

/-- A set of names. -/
abbrev NameSet := Dict Unit

def NameSet.ofList (names : List String) : NameSet := Dict.ofList (names.map fun n => (n, ()))

end Steward
