/-
Property strings survive printing and reading: what is well formed reads back as it was (`ofText_toText`),
and whatever text is read is well formed (`wellFormed_ofText`). The conditions are those of the notation:
no comma anywhere, no equals sign before the first one of a pair, no blanks at the ends of a part.
-/
import Mathlib
import Steward.Proofs.Dict
import Steward.Proofs.Text
import Steward.PropertyString

namespace Steward

namespace Text

theorem cutAt_append {sep : Char} {a b : List Char} (h : sep ∉ a) :
    cutAt sep (a ++ sep :: b) = some (a, b) := by
  induction a with
  | nil => simp [cutAt]
  | cons c a ih =>
    simp only [List.mem_cons, not_or] at h
    simp [cutAt, Ne.symm h.1, ih h.2]

end Text

namespace PropertyString

/-- Texts that may stand behind the equals sign of a pair. -/
def IsValue (s : String) : Prop := ',' ∉ s.toList ∧ Text.endsBlank s.toList = false

/-- Texts that may stand before the equals sign of a pair. -/
def IsKey (s : String) : Prop :=
  ',' ∉ s.toList ∧ '=' ∉ s.toList ∧ Text.startsBlank s.toList = false

/-- Texts that may stand first and alone. -/
def IsHead (s : String) : Prop :=
  s ≠ "" ∧ ',' ∉ s.toList ∧ '=' ∉ s.toList ∧ Text.trim s.toList = s.toList

instance (s : String) : Decidable (IsValue s) := inferInstanceAs (Decidable (_ ∧ _))

instance (s : String) : Decidable (IsKey s) := inferInstanceAs (Decidable (_ ∧ _))

instance (s : String) : Decidable (IsHead s) := inferInstanceAs (Decidable (_ ∧ _))

def IsPair (pair : String × String) : Prop := IsKey pair.1 ∧ IsValue pair.2

structure WellFormed (p : PropertyString) : Prop where
  head : ∀ h ∈ p.head, IsHead h
  pairs : ∀ pair ∈ p.pairs, IsPair pair

/-! ## Printing, then reading -/

/-- The parts that a property string is written as. -/
def items (p : PropertyString) : List String :=
  p.head.toList ++ p.pairs.map fun (key, value) => key ++ "=" ++ value

theorem toText_eq (p : PropertyString) : p.toText = Text.join "," p.items := rfl

theorem toList_pair (key value : String) : (key ++ "=" ++ value).toList = key.toList ++
    '=' :: value.toList := by
  simp [String.toList_append]

/-- A part of a property string: it reads back as one part. -/
structure IsPart (s : String) : Prop where
  ne : s.toList ≠ []
  free : ',' ∉ s.toList
  trimmed : Text.trim s.toList = s.toList

theorem IsHead.isPart {s : String} (h : IsHead s) : IsPart s where
  ne := fun he => h.1 (String.toList_inj.1 (by simpa using he))
  free := h.2.1
  trimmed := h.2.2.2

theorem IsPair.isPart {key value : String} (h : IsPair (key, value)) : IsPart (key ++ "=" ++ value) where
  ne := by simp
  free := by simp [h.1.1, h.2.1]
  trimmed := by
    rw [toList_pair]
    refine Text.trim_eq_self ?_ ?_
    · by_cases hn : key.toList = []
      · rw [hn]; rfl
      · rw [Text.startsBlank_append hn]
        exact h.1.2.2
    · by_cases hn : value.toList = []
      · rw [hn, Text.endsBlank_append _ (by simp)]; rfl
      · rw [← List.singleton_append, ← List.append_assoc, Text.endsBlank_append _ hn]
        exact h.2.2

theorem WellFormed.isPart {p : PropertyString} (h : p.WellFormed) : ∀ s ∈ p.items, IsPart s := by
  intro s hs
  rcases List.mem_append.1 hs with hs | hs
  · exact (h.head s (by simpa using hs)).isPart
  · obtain ⟨⟨key, value⟩, hpair, rfl⟩ := List.mem_map.1 hs
    exact (h.pairs _ hpair).isPart

/-- The parts of a text, of which the first may be anything that is not blank: it is read without the blanks
around it. -/
theorem parts_join_cons {s : String} {items : List String} (hc : ',' ∉ s.toList)
    (hne : Text.trim s.toList ≠ []) (h : ∀ t ∈ items, IsPart t) :
    parts (Text.join "," (s :: items)).toList = Text.trim s.toList :: items.map String.toList := by
  have hfree : ∀ t ∈ s :: items, ∀ d ∈ t.toList, (d == ',') = false := by
    intro t ht d hd
    have hcomma : ',' ∉ t.toList := by
      rcases List.mem_cons.1 ht with rfl | ht
      · exact hc
      · exact (h t ht).free
    simpa using fun he : d = ',' => hcomma (he ▸ hd)
  rw [parts, Text.splitWhere_join (c := ',') (by decide) (by decide) (by simp) hfree, List.map_map,
    List.map_cons, List.filter_cons, if_pos (by simpa using hne)]
  congr 1
  have hmap : items.map (Text.trim ∘ String.toList) = items.map String.toList :=
    List.map_congr_left fun t ht => (h t ht).trimmed
  rw [hmap, List.filter_eq_self]
  intro part hpart
  obtain ⟨t, ht, rfl⟩ := List.mem_map.1 hpart
  simpa using (h t ht).ne

theorem parts_join {items : List String} (h : ∀ s ∈ items, IsPart s) :
    parts (Text.join "," items).toList = items.map String.toList := by
  cases items with
  | nil => rfl
  | cons s items =>
    have hs := h s List.mem_cons_self
    have hne : Text.trim s.toList ≠ [] := hs.trimmed.symm ▸ hs.ne
    rw [parts_join_cons hs.free hne fun t ht => h t (List.mem_cons_of_mem _ ht), hs.trimmed, List.map_cons]

theorem cutAt_pair {key value : String} (h : IsPair (key, value)) :
    Text.cutAt '=' (key ++ "=" ++ value).toList = some (key.toList, value.toList) := by
  rw [toList_pair, Text.cutAt_append h.1.2.1]

theorem cutAt_head {s : String} (h : IsHead s) : Text.cutAt '=' s.toList = none :=
  Text.cutAt_eq_none_iff.2 h.2.2.1

theorem pairs_of_items {pairs : List (String × String)} (h : ∀ pair ∈ pairs, IsPair pair) :
    ((pairs.map fun (key, value) => key ++ "=" ++ value).map String.toList).filterMap (fun part =>
      (Text.cutAt '=' part).map fun (key, value) => (String.ofList key, String.ofList value)) = pairs := by
  induction pairs with
  | nil => rfl
  | cons pair pairs ih =>
    have hpair := h pair (by simp)
    rw [List.map_cons, List.map_cons, List.filterMap_cons, cutAt_pair hpair,
      ih fun q hq => h q (List.mem_cons_of_mem _ hq)]
    simp [String.ofList_toList]

/-- What is read of a text with any first part: the part without its blanks is the head, or, with an equals
sign in it, a pair. -/
theorem ofText_toText_head {head : String} {pairs : List (String × String)} (hc : ',' ∉ head.toList)
    (hne : Text.trim head.toList ≠ []) (h : ∀ pair ∈ pairs, IsPair pair) :
    ofText (toText ⟨some head, pairs⟩) =
      match Text.cutAt '=' (Text.trim head.toList) with
      | none => ⟨some (Text.trimmed head), pairs⟩
      | some (key, value) => ⟨none, (String.ofList key, String.ofList value) :: pairs⟩ := by
  have hitems : ∀ t ∈ pairs.map fun (key, value) => key ++ "=" ++ value, IsPart t := by
    intro t ht
    obtain ⟨⟨key, value⟩, hpair, rfl⟩ := List.mem_map.1 ht
    exact (h _ hpair).isPart
  rw [ofText, toText, Option.toList_some, List.singleton_append, ofChars, parts_join_cons hc hne hitems,
    List.filterMap_cons, pairs_of_items h, head?]
  cases Text.cutAt '=' (Text.trim head.toList) <;> rfl

/-- What is well formed reads back as it was written. -/
theorem ofText_toText {p : PropertyString} (h : p.WellFormed) : ofText p.toText = p := by
  obtain ⟨head, pairs⟩ := p
  cases head with
  | some s =>
    have hs := h.head s rfl
    have hne : Text.trim s.toList ≠ [] := hs.isPart.trimmed.symm ▸ hs.isPart.ne
    rw [ofText_toText_head hs.isPart.free hne h.pairs, Text.trimmed, hs.isPart.trimmed, cutAt_head hs,
      String.ofList_toList]
  | none =>
    rw [ofText, toText_eq, ofChars, parts_join h.isPart]
    simp only [items, Option.toList_none, List.nil_append, pairs_of_items h.pairs, PropertyString.mk.injEq,
      and_true]
    cases pairs with
    | nil => rfl
    | cons pair pairs => simp [head?, Text.cutAt_append (h.pairs pair (by simp)).1.2.1]

/-! ## Reading -/

theorem isPart_of_mem_parts {s part : List Char} (h : part ∈ parts s) : IsPart (String.ofList part) := by
  obtain ⟨hmem, hne⟩ := List.mem_filter.1 h
  obtain ⟨piece, hpiece, rfl⟩ := List.mem_map.1 hmem
  refine ⟨by simpa using hne, fun hc => ?_, ?_⟩
  · rw [String.toList_ofList] at hc
    have := Text.eq_false_of_mem_splitWhere hpiece _ (Text.mem_of_mem_trim hc)
    simp at this
  · rw [String.toList_ofList]
    exact Text.trim_trim _

/-- A part that holds an equals sign is a pair. -/
theorem IsPart.isPair {key value : String} (h : IsPart (key ++ "=" ++ value)) (hk : '=' ∉ key.toList) :
    IsPair (key, value) := by
  have hfree := h.free
  have htrim := h.trimmed
  rw [toList_pair] at hfree htrim
  simp only [List.mem_append, List.mem_cons, not_or] at hfree
  refine ⟨⟨hfree.1, hk, ?_⟩, hfree.2.2, ?_⟩
  · by_cases hn : key.toList = []
    · rw [hn]; rfl
    · rw [← Text.startsBlank_append hn ('=' :: value.toList), ← htrim]
      exact Text.startsBlank_trim _
  · by_cases hn : value.toList = []
    · rw [hn]; rfl
    · rw [← Text.endsBlank_append (key.toList ++ ['=']) hn, List.append_assoc, List.singleton_append, ← htrim]
      exact Text.endsBlank_trim _

theorem isHead_of_head? {s head : List Char} (h : head? (parts s) = some head) :
    IsHead (String.ofList head) := by
  cases hparts : parts s with
  | nil => simp [hparts, head?] at h
  | cons part rest =>
    have hpart : IsPart (String.ofList part) := isPart_of_mem_parts (s := s) (by simp [hparts])
    rw [hparts, head?] at h
    split at h
    · rename_i hnone
      obtain rfl := Option.some.inj h
      refine ⟨fun he => hpart.ne (by rw [he]; rfl), hpart.free, ?_, hpart.trimmed⟩
      rw [String.toList_ofList]
      exact Text.cutAt_eq_none_iff.1 (by simpa using hnone)
    · simp at h

/-- Whatever a text is, what is read from it is well formed. -/
theorem wellFormed_ofText (s : String) : (ofText s).WellFormed := by
  refine ⟨fun h hh => ?_, fun pair hp => ?_⟩
  · obtain ⟨head, hhead, rfl⟩ := Option.map_eq_some_iff.1 hh
    exact isHead_of_head? hhead
  · obtain ⟨part, hpart, hmap⟩ := List.mem_filterMap.1 hp
    obtain ⟨⟨key, value⟩, hcut, rfl⟩ := Option.map_eq_some_iff.1 hmap
    obtain ⟨rfl, hfree⟩ := Text.cutAt_eq_some hcut
    have heq : String.ofList (key ++ '=' :: value) = String.ofList key ++ "=" ++ String.ofList value :=
      String.toList_inj.1 (by simp)
    exact IsPart.isPair (heq ▸ isPart_of_mem_parts hpart) (by simpa using hfree)

/-- One pass through the notation settles any text; what survives it as it is are exactly the property strings
whose parts their places can hold. -/
theorem survives_iff_wellFormed : (∀ s, ofText (ofText s).toText = ofText s) ∧
    ∀ p : PropertyString, ofText p.toText = p ↔ p.WellFormed := by
  refine ⟨fun s => ofText_toText (wellFormed_ofText s), fun p => ⟨fun h => ?_, ofText_toText⟩⟩
  rw [← h]
  exact wellFormed_ofText _

-- a blank before the value of a pair is a part of it, and a later word is passed over
example : ofText "vm:9 , =a=b,late,k= v, k=" = ⟨some "vm:9", [("", "a=b"), ("k", " v"), ("k", "")]⟩ := by decide

/-! ## Values under keys -/

theorem get?_eq (p : PropertyString) (key : String) : p.get? key = lookup? p.pairs key := rfl

@[simp] theorem lookup?_optional (k : String) (v : Option String) (key : String) :
    lookup? (optional k v) key = if k = key then v else none := by
  cases v <;> by_cases h : k = key <;> simp [optional, lookup?_cons, h]

@[simp] theorem lookup?_flag (k : String) (set : Bool) (key : String) :
    lookup? (flag k set) key = if k = key ∧ set = true then some "1" else none := by
  cases set <;> by_cases h : k = key <;> simp [flag, lookup?_cons, h]

theorem isValue_of_get? {s key value : String} (h : (ofText s).get? key = some value) : IsValue value :=
  ((wellFormed_ofText s).pairs (key, value) (mem_of_lookup? h)).2

end PropertyString

end Steward
