import AdoptionRecords.Connection.Percent
import AdoptionRecords.Text.Decimal

/-! Hosts that are given by number. An address of version 4 is one to four numbers with points
between them; an address of version 6 is eight groups of digits in base sixteen, of which a pair of
colons may leave some out.
-/

namespace AdoptionRecords.Connection

open Text

/-- A group of an address of version 6: one to four digits in base sixteen. -/
def isGroup (cs : List Char) : Bool :=
  cs ≠ [] && cs.length ≤ 4 && cs.all fun c => (hexValue? c).isSome

/-- Four numbers below 256 in plain decimal notation with points between them. -/
def isQuad (cs : List Char) : Bool :=
  let parts := cs.splitOn '.'
  parts.length == 4 && parts.all fun part =>
    (part == ['0'] || part.head? ≠ some '0') &&
      match Decimal.readDigits? part with
      | some n => n < 256
      | none => false

/-- The number of groups that stand between colons; four numbers count as two groups, and may
stand last only.
-/
def groupCount? : List (List Char) → Option Nat
  | [] => some 0
  | [last] => if isGroup last then some 1 else if isQuad last then some 2 else none
  | group :: rest => if isGroup group then (groupCount? rest).map (· + 1) else none

/-- Splits a text at its first pair of colons. -/
def splitPair : List Char → Option (List Char × List Char)
  | ':' :: ':' :: rest => some ([], rest)
  | c :: rest => (splitPair rest).map fun (before, after) => (c :: before, after)
  | [] => none

/-- The groups of a text, none if it is empty. -/
def groups (cs : List Char) : List (List Char) :=
  if cs = [] then [] else cs.splitOn ':'

/-- An address of version 6 has eight groups, of which a pair of colons may stand for one or more
that are zero.
-/
def isVersion6 (cs : List Char) : Bool :=
  match splitPair cs with
  | none => groupCount? (groups cs) == some 8
  | some (before, after) =>
      match groupCount? (groups before ++ groups after) with
      | some n => n < 8 && (groups before).all isGroup
      | none => false

/-- The value of digits in a base up to sixteen. -/
def valueIn? (base : Nat) (cs : List Char) : Option Nat :=
  cs.foldlM (fun n c => do
    let digit ← hexValue? c
    if digit < base then return n * base + digit else none) 0

/-- The value of a part of an address of version 4. Its base is sixteen after the mark `0x`, even if
nothing follows, and eight after another zero.
-/
def partValue? : List Char → Option Nat
  | [] => none
  | '0' :: 'x' :: rest => valueIn? 16 rest
  | '0' :: c :: rest => valueIn? 8 (c :: rest)
  | cs => valueIn? 10 cs

/-- The parts of a domain between its points; one at its end divides nothing. -/
def parts (domain : List Char) : List (List Char) :=
  match (domain.splitOn '.').reverse with
  | [] :: rest@(_ :: _) => rest.reverse
  | all => all.reverse

/-- A domain is a number if its last part is. -/
def isNumeric (domain : List Char) : Bool :=
  match (parts domain).getLast? with
  | some last => (last ≠ [] && last.all Char.isDigit) || (partValue? last).isSome
  | none => false

/-- An address of version 4 has up to four parts. All but the last stand for one byte each, and the
last for the bytes that are left.
-/
def isVersion4 (domain : List Char) : Bool :=
  match (parts domain).mapM partValue? with
  | some values =>
      values.length ≤ 4 && values.dropLast.all (· < 256) &&
        values.getLast?.all (· < Nat.pow 256 (5 - values.length))
  | none => false

end AdoptionRecords.Connection
