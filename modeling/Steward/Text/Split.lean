/-
Texts cut at separators. `splitWhere` keeps empty pieces, so that it returns one piece more than
there are separators; `cutAt` cuts at the first separator only.
-/
import Steward.Text.Blank

namespace Steward.Text

/-- The pieces between the characters that satisfy `p`. -/
def splitWhere (p : Char → Bool) : List Char → List (List Char)
  | [] => [[]]
  | c :: r =>
    if p c then [] :: splitWhere p r
    else
      match splitWhere p r with
      | [] => [[c]]
      | piece :: pieces => (c :: piece) :: pieces

/-- What stands before and after the first `sep`, if there is one. -/
def cutAt (sep : Char) : List Char → Option (List Char × List Char)
  | [] => none
  | c :: r => if c = sep then some ([], r) else (cutAt sep r).map fun (a, b) => (c :: a, b)

/-- A text is put together again from what `cutAt` cut. -/
theorem cutAt_eq_some {sep : Char} {s a b : List Char} (h : cutAt sep s = some (a, b)) :
    s = a ++ sep :: b ∧ sep ∉ a := by
  induction s generalizing a with
  | nil => simp [cutAt] at h
  | cons c r ih =>
    by_cases hc : c = sep
    · simp [cutAt, hc] at h
      obtain ⟨rfl, rfl⟩ := h
      simp [hc]
    · simp only [cutAt, hc, if_false, Option.map_eq_some_iff] at h
      obtain ⟨⟨a', b'⟩, h1, h2⟩ := h
      simp only [Prod.mk.injEq] at h2
      obtain ⟨rfl, rfl⟩ := h2
      obtain ⟨e, n⟩ := ih h1
      exact ⟨by rw [e]; simp, by simp [n, Ne.symm hc]⟩

theorem cutAt_eq_none_iff {sep : Char} {s : List Char} : cutAt sep s = none ↔ sep ∉ s := by
  induction s with
  | nil => simp [cutAt]
  | cons c r ih =>
    by_cases hc : c = sep
    · simp [cutAt, hc]
    · simp [cutAt, hc, ih, Ne.symm hc]

/-- The pieces of a text between the characters that satisfy `p`. -/
def pieces (p : Char → Bool) (s : String) : List String :=
  (splitWhere p s.toList).map String.ofList

/-- `pieces` without blanks around them and without the empty ones. -/
def fields (p : Char → Bool) (s : String) : List String :=
  ((splitWhere p s.toList).map trim).filter (fun piece => !piece.isEmpty) |>.map String.ofList

/-- The runs of characters that are not blank. -/
def words (s : String) : List String := fields isBlank s

/-- The lines of a text, without blanks around them and without the empty ones. -/
def lines (s : String) : List String := fields (· == '\n') s

/-- A text without the ends of lines that it ends with. -/
def withoutLineEnds (s : String) : String :=
  String.ofList (s.toList.reverse.dropWhile fun c => c == '\n' || c == '\r').reverse

/-- Texts one after the other with `sep` between them. -/
def join (sep : String) : List String → String
  | [] => ""
  | [s] => s
  | s :: rest => s ++ sep ++ join sep rest

/-- What stands before and after the first `sep` of a text, if there is one. -/
def cut (sep : Char) (s : String) : Option (String × String) :=
  (cutAt sep s.toList).map fun (a, b) => (String.ofList a, String.ofList b)

/-- Whether `part` occurs in a text. -/
def occursIn (part : List Char) : List Char → Bool
  | [] => part.isEmpty
  | c :: r => part.isPrefixOf (c :: r) || occursIn part r

def contains (s part : String) : Bool := occursIn part.toList s.toList

/-- A text with `new` in the place of each `old`, from the left; the first `skip` characters are what is
left of an `old` that was replaced. -/
def replaceFrom (old new : List Char) : (skip : Nat) → List Char → List Char
  | _, [] => []
  | skip + 1, _ :: r => replaceFrom old new skip r
  | 0, c :: r =>
    if old.isPrefixOf (c :: r) then new ++ replaceFrom old new (old.length - 1) r
    else c :: replaceFrom old new 0 r

/-- A text with `new` in the place of each `old`, which must not be empty. -/
def replace (old new s : String) : String := String.ofList (replaceFrom old.toList new.toList 0 s.toList)

/-- The text after `start`, if the text starts with it. -/
def afterStart (start s : String) : Option String :=
  if start.toList.isPrefixOf s.toList then some (String.ofList (s.toList.drop start.length)) else none

def startsWith (s start : String) : Bool := start.toList.isPrefixOf s.toList

end Steward.Text
