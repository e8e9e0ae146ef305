import AdoptionRecords.Json
import AdoptionRecords.Json.Number

/-! Reading JSON text as far as it can be read. A node is a value of the text, or the place where
the text stops being JSON. What is damaged inside a value counts only for a reader that gets there,
so a node keeps its damage in the order of the text. A reader may also pass over a value that it
does not need; then it does not look at what the characters of texts and the sizes of numbers are.
-/

namespace AdoptionRecords.Json

open Text

/-- Why a text is not what a reader wants: it ends too early, it is not JSON, or it is JSON of
another shape.
-/
inductive Flaw
  | ended
  | malformed
  | mismatched
  deriving DecidableEq, Repr

/-- A value of a JSON text, as far as it can be read. A text in quotes is damaged if its escapes
name no characters. Items and members may be followed by a flaw instead of the closing bracket;
names of members are nodes, because they may be damaged too. A broken node says what is wrong for
one who reads it, for one who passes over it and for one who looks for a name to choose.
-/
inductive Node
  | null
  | bool (value : Bool)
  | int (value : Int)
  | real (significand : Nat) (exponent : Int)
  | text (content : Except Flaw String)
  | array (items : List Node) (close : Option Flaw)
  | object (members : List (Node × Node)) (close : Option Flaw)
  | broken (reading skipping choosing : Flaw)

namespace Node

/-- A node that is broken for every reader. -/
def damaged (flaw : Flaw) : Node :=
  broken flaw flaw flaw

/-- The flaw of a text that goes on with something unexpected, or with nothing. -/
def flawAt : List Char → Flaw
  | [] => .ended
  | _ => .malformed

/-- The blanks of JSON. -/
def isSpace (c : Char) : Bool :=
  c == ' ' || c == '\n' || c == '\t' || c == '\r'

/-- The text from its first character that is not blank. -/
def skipSpace (cs : List Char) : List Char :=
  cs.dropWhile isSpace

/-- A piece of a text in quotes: a character, or half of one that is escaped in two halves. -/
inductive Piece
  | char (c : Char)
  | half (n : Nat)
  deriving DecidableEq, Repr

/-- The value of a digit in base sixteen. -/
def hexValue? (c : Char) : Option Nat :=
  if c.isDigit then some (c.toNat - '0'.toNat)
  else if 'a' ≤ c ∧ c ≤ 'f' then some (c.toNat - 'a'.toNat + 10)
  else if 'A' ≤ c ∧ c ≤ 'F' then some (c.toNat - 'A'.toNat + 10)
  else none

/-- The value of four digits in base sixteen. -/
def hexValues? (a b c d : Char) : Option Nat := do
  return (((← hexValue? a) * 16 + (← hexValue? b)) * 16 + (← hexValue? c)) * 16 + (← hexValue? d)

/-- The character that a letter stands for after a backslash. -/
def plainEscape? (c : Char) : Option Char :=
  if c = '"' ∨ c = '\\' ∨ c = '/' then some c
  else if c = 'b' then some '\x08'
  else if c = 'f' then some '\x0c'
  else if c = 'n' then some '\n'
  else if c = 'r' then some '\r'
  else if c = 't' then some '\t'
  else none

/-- The piece that an escaped number stands for. -/
def pieceOf (n : Nat) : Piece :=
  if 0xD800 ≤ n ∧ n ≤ 0xDFFF then .half n else .char (Char.ofNat n)

/-- Fewer than four bytes after the mark of an escaped number end the text too early. -/
def shortEscape (cs : List Char) : Flaw :=
  if (cs.map Char.utf8Size).foldr (· + ·) 0 < 4 then .ended else .malformed

/-- The pieces of a text up to its closing quote, and what follows or what is wrong there. -/
def scan : List Char → List Piece × Except Flaw (List Char)
  | [] => ([], .error .ended)
  | '"' :: rest => ([], .ok rest)
  | '\\' :: 'u' :: a :: b :: c :: d :: rest =>
      -- Halves are told apart from characters here, but only put together by a reader.
      match hexValues? a b c d with
      | some n =>
          let (pieces, stop) := scan rest
          (pieceOf n :: pieces, stop)
      | none => ([], .error .malformed)
  | '\\' :: 'u' :: rest => ([], .error (shortEscape rest))
  | '\\' :: c :: rest =>
      match plainEscape? c with
      | some c =>
          let (pieces, stop) := scan rest
          (.char c :: pieces, stop)
      | none => ([], .error .malformed)
  | ['\\'] => ([], .error .ended)
  | c :: rest =>
      if c.toNat < 0x20 then ([], .error .malformed)
      else
        let (pieces, stop) := scan rest
        (.char c :: pieces, stop)

/-- The characters of pieces. The first half of a character must be followed by the second; if
the text stops between them, that is what is wrong.
-/
def assemble (stop : Option Flaw) : List Piece → Except Flaw (List Char)
  | [] =>
      match stop with
      | none => .ok []
      | some flaw => .error flaw
  | .char c :: rest => (assemble stop rest).map (c :: ·)
  | .half high :: .half low :: rest =>
      if high < 0xDC00 ∧ 0xDC00 ≤ low then
        (assemble stop rest).map
          (Char.ofNat (0x10000 + (high - 0xD800) * 0x400 + (low - 0xDC00)) :: ·)
      else .error .malformed
  | [.half high] =>
      match stop with
      | some flaw => if high < 0xDC00 then .error flaw else .error .malformed
      | none => .error .malformed
  | .half _ :: .char _ :: _ => .error .malformed

/-- A text after its opening quote. -/
def readText (cs : List Char) : Node × List Char :=
  match scan cs with
  | (pieces, .ok rest) => (text ((assemble none pieces).map String.ofList), rest)
  | (pieces, .error flaw) =>
      match assemble (some flaw) pieces with
      | .error reading => (broken reading flaw reading, [])
      | .ok _ => (damaged flaw, [])

/-- A word after its first letter. One who looks for a name to choose sees at the first letter that
it is none.
-/
def readWord (value : Node) : List Char → List Char → Node × List Char
  | [], cs => (value, cs)
  | _ :: _, [] => (broken .ended .ended .malformed, [])
  | w :: word, c :: cs => if c = w then readWord value word cs else (damaged .malformed, [])

/-- A number that lacks digits where the text goes on as given. -/
def unfinished (cs : List Char) : Node × List Char :=
  (broken (flawAt cs) .malformed .malformed, [])

/-- The exponent of a number after its digits, which are a significand and a power of ten. -/
def readExponent (significand : Nat) (power : Int) (cs : List Char) : Node × List Char :=
  let (negative, cs) :=
    match cs with
    | '-' :: rest => (true, rest)
    | '+' :: rest => (false, rest)
    | _ => (false, cs)
  let ds := cs.takeWhile Char.isDigit
  if ds = [] then unfinished cs
  else
    let exponent : Int := if negative then -(Decimal.value ds) else Decimal.value ds
    (real significand (power + exponent), cs.drop ds.length)

/-- Whether a number is kept as a whole one: it fits 64 bits and is not a negated zero. -/
def isWhole (negative : Bool) (n : Nat) : Bool :=
  if negative then n ≠ 0 && Decimal.min64 ≤ -n else n ≤ Decimal.maxUnsigned64

/-- A number after its sign. -/
def readNumber (negative : Bool) (cs : List Char) : Node × List Char :=
  let ds := cs.takeWhile Char.isDigit
  let rest := cs.drop ds.length
  if ds = [] then unfinished cs
  -- A number does not start with a zero that other digits follow.
  else if ds.head? = some '0' ∧ ds ≠ ['0'] then (damaged .malformed, [])
  else
    let (fraction, after) :=
      match rest with
      | '.' :: rest => (some (rest.takeWhile Char.isDigit), rest.dropWhile Char.isDigit)
      | _ => (none, rest)
    let (significand, power) := Number.ofDigits ds (fraction.getD [])
    if fraction = some [] then unfinished after
    else
      match after with
      | 'e' :: after | 'E' :: after => readExponent significand power after
      | _ =>
          if fraction = none ∧ isWhole negative (Decimal.value ds) then
            (int (if negative then -(Decimal.value ds) else Decimal.value ds), after)
          else (real significand power, after)

mutual

/-- The value at the start of a text, and what follows it. The fuel bounds the nesting. -/
def read (fuel : Nat) (cs : List Char) : Node × List Char :=
  match fuel with
  | 0 => (damaged .malformed, [])
  | fuel + 1 =>
      match skipSpace cs with
      | [] => (damaged .ended, [])
      | '"' :: cs => readText cs
      | '[' :: cs =>
          match skipSpace cs with
          | ']' :: rest => (array [] none, rest)
          | [] => (array [] (some .ended), [])
          | cs =>
              let (items, close, rest) := readItems fuel cs
              (array items close, rest)
      | '{' :: cs =>
          match skipSpace cs with
          | '}' :: rest => (object [] none, rest)
          | [] => (object [] (some .ended), [])
          | cs =>
              let (members, close, rest) := readMembers fuel cs
              (object members close, rest)
      | 'n' :: cs => readWord null ['u', 'l', 'l'] cs
      | 't' :: cs => readWord (bool true) ['r', 'u', 'e'] cs
      | 'f' :: cs => readWord (bool false) ['a', 'l', 's', 'e'] cs
      | '-' :: cs => readNumber true cs
      | c :: cs => if c.isDigit then readNumber false (c :: cs) else (damaged .malformed, [])

/-- The items of an array, one at least, with what closes it and what follows. -/
def readItems (fuel : Nat) (cs : List Char) : List Node × Option Flaw × List Char :=
  match fuel with
  | 0 => ([damaged .malformed], none, [])
  | fuel + 1 =>
      let (item, rest) := read fuel cs
      match skipSpace rest with
      | ',' :: rest =>
          let (items, close, rest) := readItems fuel rest
          (item :: items, close, rest)
      | ']' :: rest => ([item], none, rest)
      | rest => ([item], some (flawAt rest), [])

/-- The members of an object, one at least, with what closes it and what follows. Nothing can be
read from a name on that is no text in quotes.
-/
def readMembers (fuel : Nat) (cs : List Char)
    : List (Node × Node) × Option Flaw × List Char :=
  match fuel with
  | 0 => ([(damaged .malformed, null)], none, [])
  | fuel + 1 =>
      match skipSpace cs with
      | [] => ([(damaged .ended, null)], none, [])
      | '"' :: cs =>
          let (name, rest) := readText cs
          match skipSpace rest with
          | ':' :: rest =>
              let (value, rest) := read fuel rest
              match skipSpace rest with
              | ',' :: rest =>
                  let (members, close, rest) := readMembers fuel rest
                  ((name, value) :: members, close, rest)
              | '}' :: rest => ([(name, value)], none, rest)
              | rest => ([(name, value)], some (flawAt rest), [])
          | rest => ([(name, damaged (flawAt rest))], none, [])
      | _ => ([(damaged .malformed, null)], none, [])

end

/-- The value at the start of a text, and what follows it. Every bracket takes two steps: one for
the list of what it holds, and one for what stands there.
-/
def ofText (cs : List Char) : Node × List Char :=
  read (2 * (cs.length + 1)) cs

/-- The flaw of a value that a reader has read and does not want. -/
def unwanted : Node → Flaw
  | broken reading _ _ => reading
  | text (.error flaw) => flaw
  | real significand exponent =>
      if Number.overflows significand exponent then .malformed else .mismatched
  | _ => .mismatched

/-- The name of a member as a text. -/
def nameOf : Node → Except Flaw String
  | text content => content
  | broken reading _ _ => .error reading
  | _ => .error .malformed

/-- What closes an array or an object, if nothing is wrong there. -/
def checkClose : Option Flaw → Except Flaw Unit
  | none => .ok ()
  | some flaw => .error flaw

mutual

/-- Passes over a value. -/
def pass : Node → Except Flaw Unit
  | broken _ skipping _ => .error skipping
  | array items close => do
      passItems items
      checkClose close
  | object members close => do
      passMembers members
      checkClose close
  | _ => .ok ()

/-- Passes over the items of an array. -/
def passItems : List Node → Except Flaw Unit
  | [] => .ok ()
  | item :: rest => do
      pass item
      passItems rest

/-- Passes over the members of an object. -/
def passMembers : List (Node × Node) → Except Flaw Unit
  | [] => .ok ()
  | (name, value) :: rest => do
      match name with
      | text _ => pure ()
      | broken _ skipping _ => .error skipping
      | _ => .error .malformed
      pass value
      passMembers rest

end

mutual

/-- Reads a value that is kept for later, which may be nested to a limited depth. -/
def keep (depth : Nat) : Node → Except Flaw Unit
  | broken reading _ _ => .error reading
  | text (.error flaw) => .error flaw
  | real significand exponent =>
      if Number.overflows significand exponent then .error .malformed else .ok ()
  | array items close => do
      if depth = 0 then .error .malformed
      keepItems (depth - 1) items
      checkClose close
  | object members close => do
      if depth = 0 then .error .malformed
      keepMembers (depth - 1) members
      checkClose close
  | _ => .ok ()

/-- Reads the items of an array that are kept for later. -/
def keepItems (depth : Nat) : List Node → Except Flaw Unit
  | [] => .ok ()
  | item :: rest => do
      keep depth item
      keepItems depth rest

/-- Reads the members of an object that are kept for later. -/
def keepMembers (depth : Nat) : List (Node × Node) → Except Flaw Unit
  | [] => .ok ()
  | (name, value) :: rest => do
      let _ ← nameOf name
      keep depth value
      keepMembers depth rest

end

end Node

end AdoptionRecords.Json
