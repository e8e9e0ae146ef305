/-! Whole numbers in decimal notation. Reading accepts an optional sign and one or more ASCII
digits whose value lies between two bounds; nothing else is a number.
-/

namespace AdoptionRecords.Text.Decimal

/-- The smallest and largest values of a signed integer of 32 bits. -/
def min32 : Int := -2147483648

@[inherit_doc min32]
def max32 : Int := 2147483647

/-- The smallest and largest values of a signed integer of 64 bits. -/
def min64 : Int := -9223372036854775808

@[inherit_doc min64]
def max64 : Int := 9223372036854775807

/-- The largest value of an unsigned integer of 32 bits. -/
def maxUnsigned32 : Int := 4294967295

/-- The largest value of an unsigned integer of 64 bits. -/
def maxUnsigned64 : Int := 18446744073709551615

/-- The digits of a natural number, most significant first. -/
def digits (n : Nat) : List Char :=
  Nat.toDigits 10 n

/-- The digits of a natural number, filled up with leading zeros to a least width. -/
def padded (width n : Nat) : List Char :=
  let ds := digits n
  List.replicate (width - ds.length) '0' ++ ds

/-- The value of a run of digits. -/
def value (ds : List Char) : Nat :=
  Nat.ofDigitChars 10 ds 0

/-- A whole number as text: a minus sign if it is negative, then its digits. -/
def ofInt (n : Int) : List Char :=
  match n with
  | .ofNat m => digits m
  | .negSucc m => '-' :: digits (m + 1)

/-- The value of a text of one or more digits. -/
def readDigits? (cs : List Char) : Option Nat :=
  if cs ≠ [] ∧ cs.all Char.isDigit then some (value cs) else none

/-- A number within bounds, or nothing. -/
def within? (least greatest n : Int) : Option Int :=
  if least ≤ n ∧ n ≤ greatest then some n else none

/-- Reads digits after an optional plus or minus sign. -/
def readSigned? (least greatest : Int) : List Char → Option Int
  | '+' :: cs => (readDigits? cs).bind fun n => within? least greatest n
  | '-' :: cs => (readDigits? cs).bind fun n => within? least greatest (-n)
  | cs => (readDigits? cs).bind fun n => within? least greatest n

/-- Reads digits after an optional plus sign; a minus sign is not part of an unsigned number. -/
def readUnsigned? (greatest : Int) : List Char → Option Int
  | '+' :: cs => (readDigits? cs).bind fun n => within? 0 greatest n
  | cs => (readDigits? cs).bind fun n => within? 0 greatest n

end AdoptionRecords.Text.Decimal
