import AdoptionRecords.Text.Decimal

/-! Numbers of JSON text that are not whole or have too many digits. The digits are taken into a
significand of 64 bits; those that it cannot hold only count for the power of ten. Such a number
is refused if its floating-point product, significand times power, is infinite.
-/

namespace AdoptionRecords.Json.Number

open Text

/-- Takes digits into a significand up to the first that it cannot hold, and yields the digits that
are left.
-/
def absorb (significand : Nat) : List Char → Nat × List Char
  | [] => (significand, [])
  | d :: rest =>
      let next := significand * 10 + (d.toNat - '0'.toNat)
      if next ≤ Decimal.maxUnsigned64 then absorb next rest else (significand, d :: rest)

/-- The significand and the power of ten of a number with the given digits before and after its
point. Digits before it that are left raise the power, and digits after it that are taken in lower
it.
-/
def ofDigits (whole fraction : List Char) : Nat × Int :=
  let (significand, above) := absorb 0 whole
  let (significand, below) := absorb significand fraction
  (significand, above.length - (fraction.length - below.length : Int))

/-- The nearest number of 53 significant bits; of two, the even one. -/
def rounded (n : Nat) : Nat :=
  let unit := Nat.pow 2 (n.log2 - 52)
  let (q, r) := (n / unit, n % unit)
  if unit < 2 * r ∨ unit = 2 * r ∧ q % 2 = 1 then (q + 1) * unit else q * unit

/-- The least product that is taken for infinite: from here on the nearest number of 53 significant
bits lies above all those that an exponent of 11 bits allows.
-/
def infinite : Nat :=
  Nat.pow 2 1024 - Nat.pow 2 970

/-- Whether the product of a significand and a power of ten is infinite. Both are rounded before
they are multiplied, and a power above the 308th is infinite by itself.
-/
def overflows (significand : Nat) (exponent : Int) : Bool :=
  significand ≠ 0 && 0 ≤ exponent &&
    (308 < exponent || infinite ≤ rounded significand * rounded (Nat.pow 10 exponent.toNat))

end AdoptionRecords.Json.Number
