/-
What is joined is cut into the same pieces again, and what is written in digits is read as the same
number. Both need that the pieces are free of what they are cut at: the conditions below say how much
of that each notation needs.
-/
import Mathlib
import Steward.Text.Split
import Steward.Text.Unsigned

namespace Steward.Text

/-! ## Pieces between separators -/

theorem splitWhere_of_forall {p : Char → Bool} {s : List Char} (h : ∀ c ∈ s, p c = false) :
    splitWhere p s = [s] := by
  induction s with
  | nil => rfl
  | cons c r ih =>
    have hc : p c = false := h c (by simp)
    have hr := ih fun d hd => h d (by simp [hd])
    simp [splitWhere, hc, hr]

theorem splitWhere_append {p : Char → Bool} {s r : List Char} {sep : Char} (h : ∀ c ∈ s, p c = false)
    (hsep : p sep = true) : splitWhere p (s ++ sep :: r) = s :: splitWhere p r := by
  induction s with
  | nil => simp [splitWhere, hsep]
  | cons c s ih =>
    have hc : p c = false := h c (by simp)
    have hs := ih fun d hd => h d (by simp [hd])
    simp [splitWhere, hc, hs]

theorem eq_false_of_mem_splitWhere {p : Char → Bool} {s piece : List Char} (h : piece ∈ splitWhere p s) :
    ∀ c ∈ piece, p c = false := by
  induction s generalizing piece with
  | nil => simp_all [splitWhere]
  | cons c r ih =>
    rw [splitWhere] at h
    split at h
    · rcases List.mem_cons.1 h with rfl | h
      · simp
      · exact ih h
    · rename_i hc
      have hc : p c = false := by simpa using hc
      split at h
      · simp_all
      · rename_i first pieces hr
        rcases List.mem_cons.1 h with rfl | h
        · intro d hd
          rcases List.mem_cons.1 hd with rfl | hd
          · exact hc
          · exact ih (by simp [hr]) d hd
        · exact ih (by simp [hr, h])

theorem toList_join_cons (sep s : String) {rest : List String} (h : rest ≠ []) :
    (join sep (s :: rest)).toList = s.toList ++ sep.toList ++ (join sep rest).toList := by
  cases rest with
  | nil => exact absurd rfl h
  | cons t rest => simp [join, String.toList_append]

theorem mem_join {sep : String} {c : Char} :
    ∀ {items : List String}, c ∈ (join sep items).toList → c ∈ sep.toList ∨ ∃ s ∈ items, c ∈ s.toList
  | [], h => by simp [join] at h
  | [s], h => .inr ⟨s, by simp, h⟩
  | s :: t :: rest, h => by
    rw [toList_join_cons sep s (by simp), List.mem_append, List.mem_append] at h
    rcases h with (h | h) | h
    · exact .inr ⟨s, by simp, h⟩
    · exact .inl h
    · rcases mem_join h with h | ⟨u, hu, h⟩
      · exact .inl h
      · exact .inr ⟨u, by simp [hu], h⟩

/-- What is joined is cut behind each piece that is free of the separator; the last one may be cut further. -/
theorem splitWhere_join_concat {p : Char → Bool} {sep : String} {c : Char} (hc : sep.toList = [c])
    (hp : p c = true) (last : String) :
    ∀ {items : List String}, (∀ s ∈ items, ∀ d ∈ s.toList, p d = false) →
      splitWhere p (join sep (items ++ [last])).toList = items.map String.toList ++ splitWhere p last.toList
  | [], _ => rfl
  | s :: items, h => by
    rw [List.cons_append, toList_join_cons sep s (by simp), hc, List.append_assoc, List.singleton_append,
      splitWhere_append (h s (by simp)) hp,
      splitWhere_join_concat hc hp last fun t ht => h t (List.mem_cons_of_mem _ ht)]
    rfl

/-- Joined pieces that are free of the separator are the pieces again. -/
theorem splitWhere_join {p : Char → Bool} {sep : String} {c : Char} (hc : sep.toList = [c])
    (hp : p c = true) {items : List String} (hne : items ≠ [])
    (h : ∀ s ∈ items, ∀ d ∈ s.toList, p d = false) :
    splitWhere p (join sep items).toList = items.map String.toList := by
  obtain ⟨init, last, rfl⟩ := (List.eq_nil_or_concat items).resolve_left hne
  rw [List.concat_eq_append] at h ⊢
  rw [splitWhere_join_concat hc hp last fun s hs => h s (List.mem_append_left _ hs),
    splitWhere_of_forall (h last (by simp)), List.map_append]
  rfl

theorem occursIn_iff {part s : List Char} : occursIn part s = true ↔ part <:+: s := by
  induction s with
  | nil => simp [occursIn]
  | cons c r ih => rw [occursIn, Bool.or_eq_true, ih, List.isPrefixOf_iff_prefix, List.infix_cons_iff]

/-- Up to the first separator, or all of a text without one. -/
theorem takeWhile_ne (sep : Char) (s : List Char) :
    s.takeWhile (· != sep) = ((cutAt sep s).map Prod.fst).getD s := by
  induction s with
  | nil => rfl
  | cons c r ih =>
    rw [List.takeWhile_cons, cutAt, ih]
    by_cases hc : c = sep
    · simp [hc]
    · cases hr : cutAt sep r <;> simp [hc]

/-! ## Blanks at the ends -/

def startsBlank (s : List Char) : Bool := s.head?.any isBlank

def endsBlank (s : List Char) : Bool := s.getLast?.any isBlank

theorem startsBlank_reverse (s : List Char) : startsBlank s.reverse = endsBlank s := by
  rw [startsBlank, endsBlank, List.head?_reverse]

theorem startsBlank_append {s : List Char} (h : s ≠ []) (r : List Char) :
    startsBlank (s ++ r) = startsBlank s := by
  rw [startsBlank, startsBlank, List.head?_append_of_ne_nil s h]

theorem endsBlank_append (r : List Char) {s : List Char} (h : s ≠ []) : endsBlank (r ++ s) = endsBlank s := by
  rw [endsBlank, endsBlank, List.getLast?_append_of_ne_nil r h]

theorem startsBlank_eq_false {s : List Char} (h : ∀ c ∈ s, isBlank c = false) : startsBlank s = false := by
  cases s with
  | nil => rfl
  | cons c r => exact h c (by simp)

theorem endsBlank_eq_false {s : List Char} (h : ∀ c ∈ s, isBlank c = false) : endsBlank s = false := by
  rw [← startsBlank_reverse]
  exact startsBlank_eq_false fun c hc => h c (by simpa using hc)

theorem trimLeft_eq_self {s : List Char} (h : startsBlank s = false) : trimLeft s = s := by
  cases s with
  | nil => rfl
  | cons c r =>
    have hc : isBlank c = false := h
    simp [trimLeft, hc]

theorem trimRight_eq_self {s : List Char} (h : endsBlank s = false) : trimRight s = s := by
  have : trimLeft s.reverse = s.reverse := trimLeft_eq_self (by rwa [startsBlank_reverse])
  rw [trimRight, ← trimLeft, this, List.reverse_reverse]

theorem trim_eq_self {s : List Char} (hl : startsBlank s = false) (hr : endsBlank s = false) :
    trim s = s := by
  rw [trim, trimLeft_eq_self hl, trimRight_eq_self hr]

theorem startsBlank_trimLeft (s : List Char) : startsBlank (trimLeft s) = false := by
  induction s with
  | nil => rfl
  | cons c r ih =>
    by_cases hc : isBlank c = true
    · simpa [trimLeft, hc] using ih
    · have hc : isBlank c = false := by simpa using hc
      simp [trimLeft, hc, startsBlank]

theorem endsBlank_trimRight (s : List Char) : endsBlank (trimRight s) = false := by
  rw [trimRight, ← trimLeft, ← startsBlank_reverse, List.reverse_reverse]
  exact startsBlank_trimLeft _

theorem isPrefix_trimRight (s : List Char) : trimRight s <+: s := by
  have : s.reverse.dropWhile isBlank <:+ s.reverse := List.dropWhile_suffix _
  simpa [trimRight] using List.reverse_prefix.2 this

theorem startsBlank_trim (s : List Char) : startsBlank (trim s) = false := by
  -- cutting the end does not change the start, unless nothing is left
  by_cases hn : trim s = []
  · rw [hn]; rfl
  · obtain ⟨t, ht⟩ := isPrefix_trimRight (trimLeft s)
    have h := startsBlank_trimLeft s
    rw [← ht] at h
    exact (startsBlank_append hn t).symm.trans h

theorem endsBlank_trim (s : List Char) : endsBlank (trim s) = false := endsBlank_trimRight _

theorem trim_sublist (s : List Char) : (trim s).Sublist s :=
  (isPrefix_trimRight _).sublist.trans (List.dropWhile_suffix isBlank).sublist

theorem mem_of_mem_trim {s : List Char} {c : Char} (h : c ∈ trim s) : c ∈ s := (trim_sublist s).subset h

/-- Only blanks are cut off. -/
theorem mem_trim {s : List Char} {c : Char} (h : c ∈ s) (hc : isBlank c = false) : c ∈ trim s := by
  have hleft : ∀ {s : List Char}, c ∈ s → c ∈ trimLeft s := by
    intro s h
    induction s with
    | nil => cases h
    | cons d s ih =>
      rw [trimLeft, List.dropWhile_cons]
      split
      · rename_i hd
        rcases List.mem_cons.1 h with rfl | h
        · rw [hc] at hd
          cases hd
        · exact ih h
      · exact h
  rw [trim, trimRight, List.mem_reverse]
  exact hleft (List.mem_reverse.2 (hleft h))

theorem trim_eq_nil_iff {s : List Char} : trim s = [] ↔ ∀ c ∈ s, isBlank c = true := by
  constructor
  · intro h c hc
    by_contra hblank
    have hmem := mem_trim hc (Bool.eq_false_of_not_eq_true hblank)
    rw [h] at hmem
    cases hmem
  · intro h
    have hleft : trimLeft s = [] := List.dropWhile_eq_nil_iff.2 h
    rw [trim, hleft]
    rfl

/-- Blanks around a text are cut off with its own. -/
theorem trim_padded {before after : List Char} (hb : ∀ c ∈ before, isBlank c = true)
    (ha : ∀ c ∈ after, isBlank c = true) (s : List Char) : trim (before ++ s ++ after) = trim s := by
  have hleft (r : List Char) : trimLeft (before ++ r) = trimLeft r := by
    rw [trimLeft, List.dropWhile_append_of_pos hb, ← trimLeft]
  have hright (r : List Char) : trimRight (r ++ after) = trimRight r := by
    rw [trimRight, List.reverse_append, List.dropWhile_append_of_pos (by simpa using ha), ← trimRight]
  rw [List.append_assoc, trim, hleft, trim, trimLeft, List.dropWhile_append, ← trimLeft, ← trimLeft]
  split
  · rename_i hempty
    have hafter : trimLeft after = [] := List.dropWhile_eq_nil_iff.2 ha
    rw [hafter, List.isEmpty_iff.1 hempty]
  · exact hright _

theorem trim_trim (s : List Char) : trim (trim s) = trim s :=
  trim_eq_self (startsBlank_trim s) (endsBlank_trim s)

@[simp] theorem trim_nil : trim [] = [] := rfl

/-- Joined pieces without blanks at their ends, none of them empty, are the fields of the text. -/
theorem fields_join {p : Char → Bool} {sep : String} {c : Char} (hc : sep.toList = [c]) (hp : p c = true)
    {items : List String} (hne : ∀ s ∈ items, s ≠ "") (hfree : ∀ s ∈ items, ∀ d ∈ s.toList, p d = false)
    (htrim : ∀ s ∈ items, trim s.toList = s.toList) : fields p (join sep items) = items := by
  by_cases h : items = []
  · subst h; rfl
  · rw [fields, splitWhere_join hc hp h hfree, List.map_map]
    have hmap : items.map (trim ∘ String.toList) = items.map String.toList :=
      List.map_congr_left fun s hs => htrim s hs
    have hfilter : (items.map String.toList).filter (fun piece => !piece.isEmpty) =
        items.map String.toList := by
      refine List.filter_eq_self.2 fun piece hpiece => ?_
      obtain ⟨s, hs, rfl⟩ := List.mem_map.1 hpiece
      have : s.toList ≠ [] := fun he => hne s hs (String.toList_inj.1 (by simpa using he))
      simpa using this
    rw [hmap, hfilter, List.map_map]
    simp [Function.comp_def, String.ofList_toList]

/-- What the fields of a text are: without blanks at their ends, without a separator, and not empty. -/
theorem of_mem_fields {p : Char → Bool} {s field : String} (h : field ∈ fields p s) :
    field ≠ "" ∧ trim field.toList = field.toList ∧ ∀ c ∈ field.toList, p c = false := by
  obtain ⟨piece, hpiece, rfl⟩ := List.mem_map.1 h
  obtain ⟨hmem, hne⟩ := List.mem_filter.1 hpiece
  obtain ⟨whole, hwhole, rfl⟩ := List.mem_map.1 hmem
  rw [String.toList_ofList]
  refine ⟨fun he => ?_, trim_trim _, fun c hc => ?_⟩
  · have hnil := congrArg String.toList he
    rw [String.toList_ofList] at hnil
    simp [hnil] at hne
  · exact eq_false_of_mem_splitWhere hwhole c (mem_of_mem_trim hc)

theorem withoutLineEnds_idem (s : String) : withoutLineEnds (withoutLineEnds s) = withoutLineEnds s := by
  simp only [withoutLineEnds, String.toList_ofList, List.reverse_reverse]
  congr 2
  exact List.dropWhile_idempotent _ _

/-! ## Digits -/

theorem isAlpha_of_isDigit {c : Char} (h : c.isDigit = true) : c.isAlpha = false := by
  simp only [Char.isDigit, Bool.and_eq_true, decide_eq_true_eq] at h
  have hhigh : c.toNat ≤ 57 := h.2
  have hupper : ¬65 ≤ c.toNat := by omega
  have hlower : ¬97 ≤ c.toNat := by omega
  simp only [Char.isAlpha, Char.isUpper, Char.isLower, Bool.or_eq_false_iff, Bool.and_eq_false_iff,
    decide_eq_false_iff_not]
  exact ⟨fun h => hupper h.1, .inl hlower⟩

theorem toLower_of_isDigit {c : Char} (h : c.isDigit = true) : c.toLower = c := by
  simp only [Char.isDigit, Bool.and_eq_true, decide_eq_true_eq] at h
  rw [Char.toLower, dif_neg]
  rintro ⟨hupper, -⟩
  exact absurd (UInt32.le_trans hupper h.2) (by decide)

theorem digitValue?_of_isDigit {c : Char} (h : c.isDigit = true) :
    digitValue? c = some (c.toNat - '0'.toNat) := by simp [digitValue?, h]

theorem digitsFrom_of_isDigit {s : List Char} (h : ∀ c ∈ s, c.isDigit = true) (acc : Nat) :
    digitsFrom acc s = some (Nat.ofDigitChars 10 s acc) := by
  induction s generalizing acc with
  | nil => simp [digitsFrom]
  | cons c r ih =>
    rw [digitsFrom, digitValue?_of_isDigit (h c (by simp)), Option.bind_some,
      ih (fun d hd => h d (by simp [hd])), Nat.ofDigitChars_cons]

theorem isDigit_of_mem_decimal {n : Nat} {c : Char} (h : c ∈ (decimal n).toList) : c.isDigit = true := by
  rw [decimal, String.toList_ofList] at h
  exact Nat.isDigit_of_mem_toDigits (by decide) (by decide) h

theorem digits?_decimal (n : Nat) : digits? (decimal n).toList = some n := by
  have hd : ∀ c ∈ Nat.toDigits 10 n, c.isDigit = true := fun c hc =>
    Nat.isDigit_of_mem_toDigits (by decide) (by decide) hc
  rw [decimal, String.toList_ofList]
  cases hs : Nat.toDigits 10 n with
  | nil => exact absurd hs Nat.toDigits_ne_nil
  | cons c r =>
    rw [digits?, ← hs, digitsFrom_of_isDigit hd, Nat.ofDigitChars_ten_toDigits]
    simp

theorem decimal_ne_empty (n : Nat) : (decimal n).toList ≠ [] := by
  rw [decimal, String.toList_ofList]
  exact Nat.toDigits_ne_nil

theorem decimal_inj {m n : Nat} : decimal m = decimal n ↔ m = n := by
  refine ⟨fun h => ?_, fun h => h ▸ rfl⟩
  have := digits?_decimal m
  rw [h, digits?_decimal] at this
  exact (Option.some.inj this).symm

/-- A numbered name says its number. -/
theorem append_decimal_inj {name : String} {m n : Nat} : name ++ decimal m = name ++ decimal n ↔ m = n := by
  refine ⟨fun h => ?_, fun h => h ▸ rfl⟩
  have htext := congrArg String.toList h
  rw [String.toList_append, String.toList_append] at htext
  exact decimal_inj.1 (String.toList_inj.1 (List.append_cancel_left htext))

/-- A number is known from a text that goes on, behind its digits, with something else. -/
theorem decimal_append_inj {m n : Nat} {c d : Char} {r s : List Char} (hc : c.isDigit = false)
    (hd : d.isDigit = false) (h : (decimal m).toList ++ c :: r = (decimal n).toList ++ d :: s) : m = n := by
  have htake (k : Nat) {e : Char} (he : e.isDigit = false) (t : List Char) :
      ((decimal k).toList ++ e :: t).takeWhile Char.isDigit = (decimal k).toList := by
    rw [List.takeWhile_append_of_pos fun c hc => isDigit_of_mem_decimal hc,
      List.takeWhile_cons_of_neg (by simp [he]), List.append_nil]
  have hdigits := congrArg (List.takeWhile Char.isDigit) h
  rw [htake m hc, htake n hd] at hdigits
  exact decimal_inj.1 (String.toList_inj.1 hdigits)

theorem unsigned?_decimal (n : Nat) : unsigned? (decimal n).toList = some n := by
  have h := digits?_decimal n
  cases hs : (decimal n).toList with
  | nil => exact absurd hs (decimal_ne_empty n)
  | cons c r =>
    have hc : c.isDigit = true := isDigit_of_mem_decimal (n := n) (by simp [hs])
    have hplus : c ≠ '+' := by rintro rfl; exact absurd hc (by decide)
    rw [hs] at h
    unfold unsigned?
    split
    · simp_all
    · exact h

theorem uint32?_decimal (n : UInt32) : uint32? (decimal n.toNat) = some n := by
  have h : n.toNat < UInt32.size := n.toNat_lt
  rw [uint32?, unsignedBelow?, unsigned?_decimal, Option.filter_some, if_pos (by simpa using h),
    Option.map_some, UInt32.ofNat_toNat]

theorem uint16?_decimal (n : UInt16) : uint16? (decimal n.toNat) = some n := by
  have h : n.toNat < UInt16.size := n.toNat_lt
  rw [uint16?, unsignedBelow?, unsigned?_decimal, Option.filter_some, if_pos (by simpa using h),
    Option.map_some, UInt16.ofNat_toNat]

theorem isBlank_of_isDigit {c : Char} (h : c.isDigit = true) : isBlank c = false := by
  simp only [Char.isDigit, Bool.and_eq_true, decide_eq_true_eq] at h
  have hlow : 48 ≤ c.toNat := h.1
  have hhigh : c.toNat ≤ 57 := h.2
  simp only [isBlank, inRanges, blankRanges, List.any_cons, List.any_nil, Bool.or_false, Bool.or_eq_false_iff,
    Bool.and_eq_false_iff, decide_eq_false_iff_not]
  omega

@[simp] theorem trimmed_decimal (n : Nat) : trimmed (decimal n) = decimal n := by
  have hblank : ∀ c ∈ (decimal n).toList, isBlank c = false :=
    fun c hc => isBlank_of_isDigit (isDigit_of_mem_decimal hc)
  rw [trimmed, trim_eq_self (startsBlank_eq_false hblank) (endsBlank_eq_false hblank), String.ofList_toList]

end Steward.Text
