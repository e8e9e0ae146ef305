import AdoptionRecords.Text.Decimal
import AdoptionRecords.Text.Blank

/-! JSON values and their two written forms: a compact one without blanks, and one with a line
for each item and member.
-/

namespace AdoptionRecords

open Text

/-- A JSON value. A number that is not whole is a mantissa times a power of ten. -/
inductive Json
  | null
  | bool (value : Bool)
  | int (value : Int)
  | real (mantissa exponent : Int)
  | text (value : String)
  | array (items : List Json)
  | object (members : List (String × Json))
  deriving Repr

namespace Json

/-- A value that may be missing, which is null. -/
def ofOption {α : Type} (json : α → Json) : Option α → Json
  | some value => json value
  | none => null

/-- A digit of a number in base sixteen. -/
def hexDigit (n : Nat) : Char :=
  if n < 10 then Char.ofNat ('0'.toNat + n) else Char.ofNat ('a'.toNat + (n - 10))

/-- A character inside quotes. Quotes, backslashes and control characters are escaped. -/
def escaped (c : Char) : List Char :=
  if c = '"' then ['\\', '"']
  else if c = '\\' then ['\\', '\\']
  else if c = '\n' then ['\\', 'n']
  else if c = '\r' then ['\\', 'r']
  else if c = '\t' then ['\\', 't']
  else if c = '\x08' then ['\\', 'b']
  else if c = '\x0c' then ['\\', 'f']
  else if c.toNat < 0x20 then
    ['\\', 'u', '0', '0', hexDigit (c.toNat / 16), hexDigit (c.toNat % 16)]
  else [c]

/-- A text in quotes. -/
def quoted (s : String) : List Char :=
  '"' :: (s.toList.flatMap escaped ++ ['"'])

mutual

/-- The written form without blanks. -/
def compact : Json → List Char
  | null => ['n', 'u', 'l', 'l']
  | bool true => ['t', 'r', 'u', 'e']
  | bool false => ['f', 'a', 'l', 's', 'e']
  | int n => Decimal.ofInt n
  | real m e => Decimal.ofInt m ++ 'e' :: Decimal.ofInt e
  | text s => quoted s
  | array [] => ['[', ']']
  | array (first :: rest) => '[' :: (compact first ++ compactItems rest ++ [']'])
  | object [] => ['{', '}']
  | object (first :: rest) =>
      '{' :: (quoted first.1 ++ ':' :: compact first.2 ++ compactMembers rest ++ ['}'])

/-- The items of an array after the first, each with the comma before it. -/
def compactItems : List Json → List Char
  | [] => []
  | item :: rest => ',' :: (compact item ++ compactItems rest)

/-- The members of an object after the first, each with the comma before it. -/
def compactMembers : List (String × Json) → List Char
  | [] => []
  | (name, value) :: rest => ',' :: (quoted name ++ ':' :: compact value ++ compactMembers rest)

end

/-- The start of a line at a depth of nesting. -/
def lineStart (depth : Nat) : List Char :=
  '\n' :: List.replicate (2 * depth) ' '

mutual

/-- The written form with a line for each item and member, at a depth of nesting. -/
def prettyAt (depth : Nat) : Json → List Char
  | array (first :: rest) =>
      '[' :: (lineStart (depth + 1) ++ prettyAt (depth + 1) first ++
        prettyItems (depth + 1) rest ++ lineStart depth ++ [']'])
  | object (first :: rest) =>
      '{' :: (lineStart (depth + 1) ++ quoted first.1 ++ ':' :: ' ' ::
        prettyAt (depth + 1) first.2 ++ prettyMembers (depth + 1) rest ++ lineStart depth ++ ['}'])
  | plain => compact plain

/-- The items of an array after the first. -/
def prettyItems (depth : Nat) : List Json → List Char
  | [] => []
  | item :: rest =>
      ',' :: (lineStart depth ++ prettyAt depth item ++ prettyItems depth rest)

/-- The members of an object after the first. -/
def prettyMembers (depth : Nat) : List (String × Json) → List Char
  | [] => []
  | (name, value) :: rest =>
      ',' :: (lineStart depth ++ quoted name ++ ':' :: ' ' :: prettyAt depth value ++
        prettyMembers depth rest)

end

/-- The compact text of a value. -/
def line (j : Json) : String :=
  String.ofList j.compact

/-- The text of a value with a line for each item and member. -/
def pretty (j : Json) : String :=
  String.ofList (prettyAt 0 j)

end Json

end AdoptionRecords
