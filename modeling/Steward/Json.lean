/-
Values of the hypervisor's data format. Whole numbers keep apart from fractions, as they do in the
text: `4` is a whole number, `4.0` is not. Members are kept as they stand in the text, of two with
one name the later one counts.
-/
import Steward.Dict
import Steward.Binary64.Decimal
import Steward.Text.Split

namespace Steward

inductive Number
  /-- A whole number that is not negative. -/
  | natural (n : UInt64)
  /-- The negative of a whole number from one to `2 ^ 63`. -/
  | negative (n : Nat)
  | fraction (x : Binary64)
  deriving DecidableEq, Repr

inductive Json
  | null
  | bool (b : Bool)
  | number (n : Number)
  | string (s : String)
  | array (items : List Json)
  | object (members : List (String × Json))
  deriving Repr

instance : Inhabited Json := ⟨.null⟩

namespace Number

def ofNat (n : Nat) : Number := natural (UInt64.ofNat n)

/-- The nearest binary floating point value. -/
def toBinary64 : Number → Binary64
  | natural n => Binary64.ofNat n.toNat
  | negative n => (Binary64.ofNat n).neg
  | fraction x => x

/-- A decimal in notation with a point: plain while the point stands within the first sixteen digits or
at most four zeros follow it before the first digit, with an exponent otherwise. -/
def pointed (d : Decimal) : String :=
  let digits := Nat.toDigits 10 d.digits
  let point : Int := digits.length + d.exponent
  if 0 ≤ d.exponent ∧ point ≤ 16 then
    String.ofList (digits ++ List.replicate d.exponent.toNat '0') ++ ".0"
  else if 0 < point ∧ point ≤ 16 then
    String.ofList (digits.take point.toNat ++ '.' :: digits.drop point.toNat)
  else if -5 < point ∧ point ≤ 0 then
    "0." ++ String.ofList (List.replicate (-point).toNat '0' ++ digits)
  else
    let exponent := point - 1
    let sign := if exponent < 0 then "-" else ""
    let mantissa := match digits with
      | [d] => [d]
      | d :: rest => d :: '.' :: rest
      | [] => []
    String.ofList mantissa ++ "e" ++ sign ++ Text.decimal exponent.natAbs

/-- The text of a number: a fraction by the fewest digits that read back, always told from a whole
number by a point or an exponent. -/
def toText : Number → String
  | natural n => Text.decimal n.toNat
  | negative n => "-" ++ Text.decimal n
  | fraction (.finite s m p) =>
    (if s then "-" else "") ++ (if m = 0 then "0.0" else pointed (Binary64.shortest .even m p))
  | fraction _ => "null"

end Number

namespace Json

def ofNat (n : Nat) : Json := .number (.ofNat n)

def ofOption {α : Type} (f : α → Json) : Option α → Json
  | none => .null
  | some a => f a

/-- The value of a member; of two with one name the later one. -/
def member? (members : List (String × Json)) (name : String) : Option Json :=
  (members.reverse.find? fun m => m.1 == name).map (·.2)

/-- Four hexadecimal digits of a character's code. -/
def hex4 (n : Nat) : List Char :=
  let digits := Nat.toDigits 16 n
  List.replicate (4 - digits.length) '0' ++ digits

/-- The characters that stand for one character inside quotes. -/
def quotedChar (c : Char) : List Char :=
  if c = '"' then ['\\', '"']
  else if c = '\\' then ['\\', '\\']
  else if c = '\n' then ['\\', 'n']
  else if c = '\r' then ['\\', 'r']
  else if c = '\t' then ['\\', 't']
  else if c.toNat = 8 then ['\\', 'b']
  else if c.toNat = 12 then ['\\', 'f']
  else if c.toNat < 32 then '\\' :: 'u' :: hex4 c.toNat
  else [c]

def quoted (s : String) : String := String.ofList ('"' :: s.toList.flatMap quotedChar ++ ['"'])

mutual

/-- A value with the members of its objects in the order of their names, each name once. -/
def normal : Json → Json
  | .array items => .array (normalItems items)
  | .object members => .object (Dict.ofList (normalMembers members)).entries
  | j => j

def normalItems : List Json → List Json
  | [] => []
  | item :: items => item.normal :: normalItems items

def normalMembers : List (String × Json) → List (String × Json)
  | [] => []
  | (name, value) :: members => (name, value.normal) :: normalMembers members

end

mutual

/-- The text of a value without blanks, members in the order of their names. -/
def toText : Json → String
  | .null => "null"
  | .bool b => if b then "true" else "false"
  | .number n => n.toText
  | .string s => quoted s
  | .array items => "[" ++ Text.join "," (itemTexts items) ++ "]"
  | .object members =>
    let members := Dict.ofList (memberTexts members)
    "\x7b" ++ Text.join "," (members.entries.map fun m => quoted m.1 ++ ":" ++ m.2) ++ "\x7d"

def itemTexts : List Json → List String
  | [] => []
  | item :: items => item.toText :: itemTexts items

def memberTexts : List (String × Json) → List (String × String)
  | [] => []
  | (name, value) :: members => (name, value.toText) :: memberTexts members

end

end Json

end Steward
