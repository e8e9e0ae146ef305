import AdoptionRecords.Calendar.Instant
import AdoptionRecords.Text.Blank

/-! The written forms of dates and instants. Writing is canonical; reading is lenient about
blanks and leading zeros and takes an instant in any zone to universal time.
-/

namespace AdoptionRecords.Calendar

open AdoptionRecords.Text

/-- A year is written with four digits; outside 0 to 9999 it also carries its sign. -/
def yearText (year : Int) : List Char :=
  if 0 ≤ year ∧ year ≤ 9999 then Decimal.padded 4 year.toNat
  else (if year < 0 then '-' else '+') :: Decimal.padded 4 year.natAbs

/-- Two digits of a month, day, hour, minute or second. -/
def twoDigits (n : Nat) : List Char :=
  Decimal.padded 2 n

/-- A civil date as year, month and day with hyphens between them. -/
def Civil.text (c : Civil) : List Char :=
  yearText c.year ++ '-' :: twoDigits c.month.toNat ++ '-' :: twoDigits c.day.toNat

/-- A date as year, month and day with hyphens between them. -/
def Date.text (d : Date) : String :=
  String.ofList d.civil.text

/-- Hour, minute and second with colons between them; a leap second is the second numbered 60. -/
def Instant.clockText (i : Instant) : List Char :=
  let s := i.secondOfDay
  let leap := if i.isLeap then 1 else 0
  twoDigits (s / 3600) ++ ':' :: twoDigits (s / 60 % 60) ++ ':' :: twoDigits (s % 60 + leap)

/-- The fraction of a second in three, six or nine digits, whichever is exact, or nothing. -/
def Instant.fractionText (i : Instant) : List Char :=
  let n := i.nanos % nanosPerSecond
  if n = 0 then []
  else if n % 1000000 = 0 then '.' :: Decimal.padded 3 (n / 1000000)
  else if n % 1000 = 0 then '.' :: Decimal.padded 6 (n / 1000)
  else '.' :: Decimal.padded 9 n

/-- An instant as date and time of day in universal time. -/
def Instant.text (i : Instant) : String :=
  String.ofList (i.date.civil.text ++ 'T' :: i.clockText ++ i.fractionText ++ ['Z'])

/-- An instant as date and time of day to the second, for reading by people. -/
def Instant.display (i : Instant) : String :=
  String.ofList (i.date.civil.text ++ ' ' :: i.clockText)

/-- A run of digits, at least one and at most the given number of them, and what follows. -/
def readNumber? (most : Nat) (cs : List Char) : Option (Nat × List Char) :=
  let ds := (cs.take most).takeWhile Char.isDigit
  if ds = [] then none else some (Decimal.value ds, cs.drop ds.length)

/-- A year: with a sign any number of digits, without one at most four. -/
def readYear? (cs : List Char) : Option (Int × List Char) :=
  match trimStart cs with
  | '-' :: rest => (readNumber? rest.length rest).map fun (n, rest) => (-(n : Int), rest)
  | '+' :: rest => (readNumber? rest.length rest).map fun (n, rest) => ((n : Int), rest)
  | rest => (readNumber? 4 rest).map fun (n, rest) => ((n : Int), rest)

/-- A number of one or two digits between two bounds, after any blanks. -/
def readPart? (least greatest : Nat) (cs : List Char) : Option (Nat × List Char) := do
  let (n, rest) ← readNumber? 2 (trimStart cs)
  if least ≤ n ∧ n ≤ greatest then some (n, rest) else none

/-- A separator, after any blanks. -/
def readMark? (mark : Char) (cs : List Char) : Option (List Char) :=
  match trimStart cs with
  | c :: rest => if c = mark then some rest else none
  | [] => none

/-- A year, a month and a day with hyphens between them. -/
def readCivil? (cs : List Char) : Option (Civil × List Char) := do
  let (year, cs) ← readYear? cs
  let cs ← readMark? '-' cs
  let (month, cs) ← readPart? 1 12 cs
  let cs ← readMark? '-' cs
  let (day, cs) ← readPart? 1 31 cs
  return (⟨year, month, day⟩, cs)

/-- Reads a date; blanks may surround each of its parts. -/
def Date.read? (s : String) : Option Date := do
  let (civil, rest) ← readCivil? s.toList
  if trimStart rest = [] then Date.ofCivil? civil else none

/-- A fraction of a second in nanoseconds; digits beyond the ninth are passed over. -/
def readFraction? : List Char → Option (Nat × List Char)
  | '.' :: cs => do
      let (n, _) ← readNumber? 9 cs
      let ds := (cs.take 9).takeWhile Char.isDigit
      return (n * Nat.pow 10 (9 - ds.length), cs.dropWhile Char.isDigit)
  | cs => some (0, cs)

/-- A time of day: seconds since midnight and nanoseconds, the second numbered 60 being the leap
second after the one numbered 59.
-/
def readClock? (cs : List Char) : Option (Nat × Nat × List Char) := do
  let (hour, cs) ← readPart? 0 23 cs
  let cs ← readMark? ':' cs
  let (minute, cs) ← readPart? 0 59 cs
  let cs ← readMark? ':' cs
  let (second, cs) ← readPart? 0 60 cs
  let (nanos, cs) ← readFraction? cs
  -- The leap second is the sixtieth second with nanoseconds beyond its end.
  let (second, nanos) := if second = 60 then (59, nanosPerSecond + nanos) else (second, nanos)
  return (hour * 3600 + minute * 60 + second, nanos, cs)

/-- Two digits as a number below a bound, and what follows. -/
def readTwoDigits? (bound : Nat) : List Char → Option (Nat × List Char)
  | a :: b :: rest =>
      if a.isDigit ∧ b.isDigit ∧ Decimal.value [a, b] < bound then
        some (Decimal.value [a, b], rest)
      else none
  | _ => none

/-- The distance from universal time in seconds: a sign, two digits of hours, then two digits of
minutes, which colons and blanks may separate. It is less than a day.
-/
def readOffset? (cs : List Char) : Option (Int × List Char) := do
  let (sign, cs) ← match cs with
    | '+' :: cs => some ((1 : Int), cs)
    | '-' :: cs => some (-1, cs)
    | '\u2212' :: cs => some (-1, cs)
    | _ => none
  let (hours, cs) ← readTwoDigits? 24 cs
  let (minutes, cs) ← readTwoDigits? 60 (cs.dropWhile fun c => c == ':' || isBlank c)
  return (sign * (hours * 3600 + minutes * 60 : Nat), cs)

/-- A zone: the letter Z, the word UTC in any case, or a distance from universal time. -/
def readZone? (cs : List Char) : Option (Int × List Char) :=
  match trimStart cs with
  | 'Z' :: cs | 'z' :: cs => some (0, cs)
  | cs =>
      if (cs.take 3).map Char.toUpper = ['U', 'T', 'C'] then some (0, cs.drop 3)
      else readOffset? cs

/-- Reads an instant: a date, one separator (T or a space), a time of day and a zone. -/
def Instant.read? (s : String) : Option Instant := do
  let (civil, cs) ← readCivil? s.toList
  let date ← Date.ofCivil? civil
  let cs ← match cs with
    | 'T' :: cs | 't' :: cs | ' ' :: cs => some cs
    | _ => none
  let (second, nanos, cs) ← readClock? cs
  let (offset, cs) ← readZone? cs
  if trimStart cs = [] then
    Instant.of? (date.day * secondsPerDay + second - offset) nanos
  else none

end AdoptionRecords.Calendar
