/-! Punycode: texts of any characters written with plain ones. The plain characters come first, and
after the last hyphen numbers tell which other character is put in next, and where. A number is
written in base thirty-six with a threshold for every digit; a digit below it is the last. The
thresholds adapt to the size of the numbers before.
-/

namespace AdoptionRecords.Text.Punycode

/-- The value of a digit in base thirty-six. -/
def digit? (c : Char) : Option Nat :=
  if c.isLower then some (c.toNat - 'a'.toNat)
  else if c.isDigit then some (c.toNat - '0'.toNat + 26)
  else none

/-- The threshold of the digit at a position, which counts by thirty-six. -/
def threshold (bias position : Nat) : Nat :=
  max 1 (min 26 (position - bias))

/-- Divides a distance until it is small, and counts by thirty-six how often. -/
def shrink (distance position : Nat) : Nat × Nat :=
  if h : 455 < distance then shrink (distance / 35) (position + 36) else (distance, position)
termination_by distance
decreasing_by omega

/-- The bias after a number, by which some character was put in that then made up a text of the
given length.
-/
def adapt (distance length : Nat) (first : Bool) : Nat :=
  let distance := if first then distance / 700 else distance / 2
  let (distance, position) := shrink (distance + distance / length) 0
  position + 36 * distance / (distance + 38)

/-- Reads a number from the digit at a position, whose weight is given, and what follows it. -/
def readNumber (bias position weight : Nat) : List Char → Option (Nat × List Char)
  | [] => none
  | c :: rest => do
      let digit ← digit? c
      let limit := threshold bias position
      if digit < limit then return (digit * weight, rest)
      else
        let (above, rest) ← readNumber bias (position + 36) (weight * (36 - limit)) rest
        return (digit * weight + above, rest)

theorem length_readNumber {bias position weight n : Nat} {cs rest : List Char}
    (h : readNumber bias position weight cs = some (n, rest))
    : rest.length < cs.length := by
  induction cs generalizing position weight n with
  | nil => simp [readNumber] at h
  | cons c cs ih =>
      simp only [readNumber, bind, Option.bind_eq_some_iff] at h
      obtain ⟨d, -, h⟩ := h
      split at h
      · cases h
        simp
      · obtain ⟨⟨above, rest'⟩, hr, h⟩ := Option.bind_eq_some_iff.1 h
        cases h
        exact Nat.lt_succ_of_lt (ih hr)

/-- Puts characters into a text. The next character and its place are counted on from the last ones,
through all places before the next greater character.
-/
def insertAll (bias last place : Nat) (text : List Char) (cs : List Char) : Option (List Char) :=
  if cs = [] then some text
  else
    match h : readNumber bias 36 1 cs with
    | none => none
    | some (distance, rest) =>
        let length := text.length + 1
        let code := last + (place + distance) / length
        let here := (place + distance) % length
        if code.isValidChar then
          -- The first number is the only one that counts from the first place.
          insertAll (adapt distance length (place = 0)) code (here + 1)
            (text.insertIdx here (Char.ofNat code)) rest
        else none
termination_by cs.length
decreasing_by exact length_readNumber h

/-- The text that a written one stands for. -/
def decode? (cs : List Char) : Option (List Char) :=
  let tail := (cs.reverse.takeWhile (· ≠ '-')).reverse
  let head := cs.take (cs.length - tail.length)
  -- A hyphen at the start divides nothing, and is no digit either.
  if head = ['-'] ∨ head.any (0x80 ≤ ·.toNat) then none
  else insertAll 72 0x80 0 head.dropLast tail

end AdoptionRecords.Text.Punycode
