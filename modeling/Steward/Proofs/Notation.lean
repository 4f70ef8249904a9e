/-
Each parameter's notation reads back what it was printed from. Numbers and flags always do; texts do
where their notation can carry them: the value of a pair holds no comma and ends in no blank, and the
members of a list are not empty and hold no semicolon either.
-/
import Mathlib
import Steward.Nic.Property
import Steward.Parameter
import Steward.Proofs.PropertyString

namespace Steward

namespace PropertyString

/-! ## Texts that a notation can carry -/

/-- Members of a list between semicolons. -/
def IsItem (s : String) : Prop := s ≠ "" ∧ ';' ∉ s.toList ∧ IsValue s

/-- What may stand alone, or be left out. -/
def IsBare (s : String) : Prop := ',' ∉ s.toList ∧ '=' ∉ s.toList ∧ Text.trim s.toList = s.toList

/-- Without a comma, a semicolon, an equals sign or a blank, and not empty: what every notation can carry. -/
def IsWord (s : String) : Prop :=
  s ≠ "" ∧ ∀ c ∈ s.toList, c ≠ ',' ∧ c ≠ ';' ∧ c ≠ '=' ∧ Text.isBlank c = false

instance (s : String) : Decidable (IsItem s) := inferInstanceAs (Decidable (_ ∧ _))

instance (s : String) : Decidable (IsBare s) := inferInstanceAs (Decidable (_ ∧ _))

instance (s : String) : Decidable (IsWord s) :=
  have := List.decidableBAll (fun c => c ≠ ',' ∧ c ≠ ';' ∧ c ≠ '=' ∧ Text.isBlank c = false) s.toList
  inferInstanceAs (Decidable (_ ∧ _))

theorem IsWord.isValue {s : String} (h : IsWord s) : IsValue s :=
  ⟨fun hc => (h.2 _ hc).1 rfl, Text.endsBlank_eq_false fun c hc => (h.2 c hc).2.2.2⟩

theorem IsWord.isItem {s : String} (h : IsWord s) : IsItem s :=
  ⟨h.1, fun hc => (h.2 _ hc).2.1 rfl, h.isValue⟩

theorem IsWord.isBare {s : String} (h : IsWord s) : IsBare s :=
  ⟨fun hc => (h.2 _ hc).1 rfl, fun hc => (h.2 _ hc).2.2.1 rfl,
    Text.trim_eq_self (Text.startsBlank_eq_false fun c hc => (h.2 c hc).2.2.2) h.isValue.2⟩

theorem IsWord.append {s t : String} (hs : IsWord s) (ht : IsWord t) : IsWord (s ++ t) := by
  refine ⟨fun he => hs.1 (String.toList_inj.1 ?_), fun c hc => ?_⟩
  · have hnil := congrArg String.toList he
    rw [String.toList_append] at hnil
    simpa using (List.append_eq_nil_iff.1 hnil).1
  · rw [String.toList_append] at hc
    rcases List.mem_append.1 hc with hc | hc
    · exact hs.2 c hc
    · exact ht.2 c hc

theorem isWord_decimal (n : Nat) : IsWord (Text.decimal n) := by
  refine ⟨fun he => Text.decimal_ne_empty n (by rw [he]; rfl), fun c hc => ?_⟩
  have hdigit : c.isDigit = true := Text.isDigit_of_mem_decimal hc
  refine ⟨?_, ?_, ?_, Text.isBlank_of_isDigit hdigit⟩ <;> rintro rfl <;> exact absurd hdigit (by decide)

@[simp] theorem isValue_decimal (n : Nat) : IsValue (Text.decimal n) := (isWord_decimal n).isValue

@[simp] theorem isValue_flagDigit (b : Bool) : IsValue (flagDigit b) := by cases b <;> decide

@[simp] theorem isTrueWord_flagDigit (b : Bool) : isTrueWord (flagDigit b) = b := by cases b <;> decide

@[simp] theorem isTrueWord_one : isTrueWord "1" = true := by decide

theorem isValue_join {sep : String} (hsep : IsValue sep) {items : List String}
    (h : ∀ s ∈ items, s ≠ "" ∧ IsValue s) :
    IsValue (Text.join sep items) := by
  refine ⟨fun hc => ?_, ?_⟩
  · rcases Text.mem_join hc with hc | ⟨s, hs, hc⟩
    · exact hsep.1 hc
    · exact (h s hs).2.1 hc
  · induction items with
    | nil => rfl
    | cons s rest ih =>
      cases rest with
      | nil => exact (h s (by simp)).2.2
      | cons t rest =>
        -- the end of the text is the end of its last item, which is not empty
        have hne : (Text.join sep (t :: rest)).toList ≠ [] := by
          have ht : t.toList ≠ [] := fun he => (h t (by simp)).1 (String.toList_inj.1 (by simpa using he))
          cases rest with
          | nil => exact ht
          | cons u rest => simp [Text.toList_join_cons, ht]
        rw [Text.toList_join_cons sep s (by simp), Text.endsBlank_append _ hne]
        exact ih fun u hu => h u (List.mem_cons_of_mem _ hu)

/-! ## Well-formed lists of pairs -/

def ArePairs (pairs : List (String × String)) : Prop := ∀ pair ∈ pairs, IsPair pair

@[simp] theorem arePairs_nil : ArePairs [] := by simp [ArePairs]

@[simp] theorem arePairs_cons {key value : String} {pairs : List (String × String)} :
    ArePairs ((key, value) :: pairs) ↔ (IsKey key ∧ IsValue value) ∧ ArePairs pairs := List.forall_mem_cons

@[simp] theorem arePairs_append {xs ys : List (String × String)} : ArePairs (xs ++ ys) ↔ ArePairs xs ∧
    ArePairs ys :=
  List.forall_mem_append

theorem arePairs_optional {key : String} {value : Option String} (hk : IsKey key)
    (hv : ∀ v ∈ value, IsValue v) :
    ArePairs (optional key value) := by
  cases value with
  | none => exact arePairs_nil
  | some v => exact arePairs_cons.2 ⟨⟨hk, hv v rfl⟩, arePairs_nil⟩

theorem arePairs_flag {key : String} {set : Bool} (hk : IsKey key) : ArePairs (flag key set) := by
  cases set with
  | false => exact arePairs_nil
  | true => exact arePairs_cons.2 ⟨⟨hk, by decide⟩, arePairs_nil⟩

theorem ArePairs.wellFormed {pairs : List (String × String)} (h : ArePairs pairs) :
    WellFormed ⟨none, pairs⟩ :=
  ⟨by simp, h⟩

theorem get?_ofText_toText {p : PropertyString} (h : p.WellFormed) (key : String) :
    (ofText p.toText).get? key = lookup? p.pairs key := by rw [ofText_toText h, get?_eq]

end PropertyString

open PropertyString

theorem semicolonParts_join {items : List String} (h : ∀ s ∈ items, IsItem s) :
    semicolonParts (Text.join ";" items) = items := by
  by_cases hn : items = []
  · subst hn; rfl
  · have hfree : ∀ s ∈ items, ∀ d ∈ s.toList, (d == ';') = false := by
      intro s hs d hd
      have : d ≠ ';' := fun he => (h s hs).2.1 (he ▸ hd)
      simpa using this
    have hpieces : Text.pieces (· == ';') (Text.join ";" items) = items := by
      rw [Text.pieces, Text.splitWhere_join (c := ';') (by decide) (by decide) hn hfree, List.map_map]
      simp [Function.comp_def, String.ofList_toList]
    rw [semicolonParts, hpieces, List.filter_eq_self]
    intro s hs
    simpa using (h s hs).1

theorem isValue_join_items {items : List String} (h : ∀ s ∈ items, IsItem s) :
    IsValue (Text.join ";" items) :=
  isValue_join (by decide) fun s hs => ⟨(h s hs).1, (h s hs).2.2⟩

/-! ## Processor, start order, agent, boot order, tags, shared memory -/

/-- A first part that is empty is the same as none. -/
theorem PropertyString.ofText_empty_head (pairs : List (String × String)) :
    ofText (toText ⟨some "", pairs⟩) = ofText (toText ⟨none, pairs⟩) := by
  cases pairs with
  | nil => rfl
  | cons pair pairs => simp [ofText, ofChars, toText, Text.join, parts, Text.splitWhere]

theorem Cpu.emulationOfText_emulationText {emulation : String} {flags : List String} (he : IsBare emulation)
    (hf : ∀ s ∈ flags, IsItem s) : emulationOfText (emulationText emulation flags) = (emulation, flags) := by
  let pairs : List (String × String) := if flags.isEmpty then [] else [("flags", Text.join ";" flags)]
  have hpairs : ArePairs pairs := by
    by_cases hn : flags.isEmpty = true
    · simp [pairs, hn]
    · simpa [pairs, hn] using ⟨by decide, isValue_join_items hf⟩
  have htype : lookup? pairs "cputype" = none := by
    by_cases hn : flags.isEmpty = true <;> simp [pairs, hn, lookup?_cons]
  have hflags : ((lookup? pairs "flags").map semicolonParts).getD [] = flags := by
    cases flags with
    | nil => rfl
    | cons flag flags => simp [pairs, lookup?_cons, semicolonParts_join hf]
  by_cases hn : emulation = ""
  · have hread : ofText (emulationText emulation flags) = ⟨none, pairs⟩ := by
      rw [hn, emulationText, ofText_empty_head, ofText_toText hpairs.wellFormed]
    simp only [emulationOfText, hread, get?_eq, htype, hflags]
    simp [hn]
  · have hw : WellFormed ⟨some emulation, pairs⟩ := ⟨by simpa using ⟨hn, he⟩, hpairs⟩
    have hread : ofText (emulationText emulation flags) = ⟨some emulation, pairs⟩ := ofText_toText hw
    simp only [emulationOfText, hread, get?_eq, htype, hflags]
    simp

theorem Startup.ofText_toText (s : Startup) : ofText s.toText = s := by
  have hpairs : ∀ (key : String) (n : Option UInt32), IsKey key → ArePairs (optionalNumber key n) :=
    fun key n hk => arePairs_optional hk (by cases n <;> simp)
  have hw : ArePairs (optionalNumber "order" s.order ++ optionalNumber "up" s.upDelay ++
      optionalNumber "down" s.downDelay) := by
    simp only [arePairs_append]
    exact ⟨⟨hpairs _ _ (by decide), hpairs _ _ (by decide)⟩, hpairs _ _ (by decide)⟩
  have hread : ∀ n : Option UInt32, (n.map fun n => Text.decimal n.toNat).bind Text.uint32? = n := by
    intro n; cases n <;> simp [Text.uint32?_decimal]
  simp only [ofText, toText, get?_ofText_toText hw.wellFormed]
  simp [lookup?_append, optionalNumber, hread]

theorem Agent.ofText_toText {a : Agent} (h : IsValue a.channel) : ofText a.toText = a := by
  have hw : ArePairs [("enabled", flagDigit a.enabled), ("fstrim_cloned_disks", flagDigit a.trim),
      ("type", a.channel)] := by
    simpa [h] using ⟨by decide, by decide, by decide⟩
  simp only [ofText, toText, get?_ofText_toText hw.wellFormed]
  simp [lookup?_cons]

theorem BootOrder.ofText_toText {devices : List String} (h : ∀ s ∈ devices, IsItem s) :
    ofText (toText devices) = devices := by
  have hw : ArePairs [("order", Text.join ";" devices)] := by
    simpa [isValue_join_items h] using by decide
  have htext : toText devices = PropertyString.toText ⟨none, [("order", Text.join ";" devices)]⟩ := by
    simp [toText, PropertyString.toText, Text.join]
  simp only [ofText, htext, get?_ofText_toText hw.wellFormed]
  simp [lookup?_cons, semicolonParts_join h]

/-- Texts that may stand between the separators of tags. -/
def Tags.IsTag (s : String) : Prop :=
  s ≠ "" ∧ Text.trim s.toList = s.toList ∧ ∀ c ∈ s.toList, c ≠ ';' ∧ c ≠ ',' ∧ c ≠ ' '

instance (s : String) : Decidable (Tags.IsTag s) :=
  have := List.decidableBAll (fun c => c ≠ ';' ∧ c ≠ ',' ∧ c ≠ ' ') s.toList
  inferInstanceAs (Decidable (_ ∧ _ ∧ _))

theorem PropertyString.IsWord.isTag {s : String} (h : IsWord s) : Tags.IsTag s := by
  refine ⟨h.1, h.isBare.2.2, fun c hc => ⟨(h.2 c hc).2.1, (h.2 c hc).1, ?_⟩⟩
  rintro rfl
  exact absurd (h.2 _ hc).2.2.2 (by decide)

theorem Tags.ofText_toText {tags : NameSet} (h : ∀ s ∈ tags.keys, IsTag s) : ofText (toText tags) = tags := by
  have hfields : Text.fields (fun c => c == ';' || c == ',' || c == ' ') (Text.join ";" tags.keys) =
      tags.keys := by
    refine Text.fields_join (c := ';') (by decide) (by decide) (fun s hs => (h s hs).1) (fun s hs c hc => ?_)
      fun s hs => (h s hs).2.1
    obtain ⟨h1, h2, h3⟩ := (h s hs).2.2 c hc
    simp [h1, h2, h3]
  rw [ofText, toText, hfields, NameSet.ofList_keys]

theorem SharedMemory.ofText?_toText (sizeMb id : UInt32) : ofText? (toText sizeMb id) = some sizeMb := by
  have hname : IsValue ("pveflow-" ++ Text.decimal id.toNat) :=
    (IsWord.append (by decide) (isWord_decimal id.toNat)).isValue
  have hw : ArePairs [("size", Text.decimal sizeMb.toNat),
      ("name", "pveflow-" ++ Text.decimal id.toNat)] := by
    simpa [hname] using ⟨by decide, by decide⟩
  have htext : toText sizeMb id = PropertyString.toText
      ⟨none, [("size", Text.decimal sizeMb.toNat), ("name", "pveflow-" ++ Text.decimal id.toNat)]⟩ := by
    refine String.toList_inj.1 ?_
    simp [toText, PropertyString.toText, Text.join]
  rw [ofText?, htext, get?_ofText_toText hw.wellFormed]
  simp [lookup?_cons, Text.uint32?_decimal]

end Steward
