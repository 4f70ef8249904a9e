/-
Values from texts that users write. Such a text shows: control characters and non-characters make it
malformed. A quoted text may go on after a line break, and a scalar without quotes stands for its own
letters where a text is expected.
-/
import Steward.Json.Reader

namespace Steward.Json

/-- Whether a character may stand in a text that a user writes. -/
def isPlain (c : Char) : Bool :=
  c = '\t' || c = '\n' || c = '\r' || (' ' ≤ c && c ≤ '~') || c.toNat = 0x85 ||
    (0xA0 ≤ c.toNat && c.toNat ≤ 0xFFFD) || 0x10000 ≤ c.toNat

/-- The line breaks that may stand in a quoted text: next line, line separator, paragraph separator. -/
def isBreak (c : Char) : Bool := c.toNat = 0x85 || c.toNat = 0x2028 || c.toNat = 0x2029

/-- A break that is kept: the next line is a plain new line, the separators stay. -/
def keptBreak (c : Char) : List Char := if c.toNat = 0x85 then ['\\', 'n'] else [c]

/-- What a run of blanks and breaks stands for: blanks beside a break go, a single next line is a blank,
and the first of several is dropped. -/
def foldedRun (run : List Char) : List Char :=
  match run.filter isBreak with
  | [] => run
  | b :: bs =>
    if b.toNat = 0x85 then if bs.isEmpty then [' '] else bs.flatMap keptBreak
    else b :: bs.flatMap keptBreak

/-- A text with every run of blanks and breaks folded; `run` is the run before it, last character
first. -/
def foldBreaks (run : List Char) : List Char → List Char
  | [] => foldedRun run.reverse
  | c :: rest =>
    if c = ' ' ∨ c = '\t' ∨ isBreak c then foldBreaks (c :: run) rest
    else foldedRun run.reverse ++ c :: foldBreaks [] rest

/-- The value of a text that a user writes: nothing at all is an empty record. -/
def ofPlainText? (s : String) : Option Json :=
  if !s.toList.all isPlain then none
  else if (skip s.toList).isEmpty then some (.object [])
  else ofText? .nearest (String.ofList (foldBreaks [] s.toList))

/-- A text as plain scalars of settings and documents write it: a number, a flag or null stands for its
own text. -/
def plainText? : Json → Option String
  | .string s => some s
  | .number n => some n.toText
  | .bool b => some (if b then "true" else "false")
  | .null => some "null"
  | _ => none

end Steward.Json
