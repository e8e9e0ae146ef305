import AdoptionRecords.Text.Decimal
import Mathlib.Algebra.Ring.Nat

/-! Digits as they are written and read: the digits of a number tell its value, and a run of digits
ends where the text goes on with something else.
-/

namespace AdoptionRecords.Text.Decimal

variable {width n : Nat} {ds rest : List Char}

-----------------------------------------------------------------------------------------
-- Writing
-----------------------------------------------------------------------------------------

theorem isDigit_of_mem_digits {c : Char} (h : c ∈ digits n) : c.isDigit = true :=
  Nat.isDigit_of_mem_toDigits (by decide) (by decide) h

theorem value_digits (n : Nat) : value (digits n) = n :=
  Nat.ofDigitChars_ten_toDigits

theorem digits_ne_nil (n : Nat) : digits n ≠ [] :=
  Nat.toDigits_ne_nil

theorem length_digits_le_iff (pos : 0 < width) : (digits n).length ≤ width ↔ n < 10 ^ width :=
  Nat.length_toDigits_le_iff (by decide) pos

theorem isDigit_of_mem_padded {c : Char} (h : c ∈ padded width n) : c.isDigit = true := by
  obtain filler | digit := List.mem_append.mp h
  · rw [List.eq_of_mem_replicate filler]
    rfl
  · exact isDigit_of_mem_digits digit

/-- Leading zeros do not count. -/
theorem value_padded (width n : Nat) : value (padded width n) = n := by
  unfold padded value
  rw [Nat.ofDigitChars_append, Nat.ofDigitChars_replicate_zero, Nat.mul_zero]
  exact value_digits n

theorem padded_ne_nil (width n : Nat) : padded width n ≠ [] :=
  List.append_ne_nil_of_right_ne_nil _ (digits_ne_nil n)

/-- A number that is not too great has exactly as many digits as it is filled up to. -/
theorem length_padded (pos : 0 < width) (fits : n < 10 ^ width)
    : (padded width n).length = width := by
  have := (length_digits_le_iff pos).mpr fits
  unfold padded
  rw [List.length_append, List.length_replicate]
  omega

/-- The digits of a number do not start with a zero unless the number is zero, by induction on the
digits from the last.
-/
theorem head?_digits_ne_zero (n : Nat) (ne : n ≠ 0) : (digits n).head? ≠ some '0' := by
  unfold digits
  rw [Nat.toDigits_eq_if (by decide)]
  split
  · next small =>
      have (m : Fin 10) : m.val ≠ 0 → [Nat.digitChar m].head? ≠ some '0' := by decide +revert
      exact this ⟨n, small⟩ ne
  · next large =>
      have before := head?_digits_ne_zero (n / 10) (by omega)
      unfold digits at before
      obtain ⟨first, more, leading⟩ :=
        List.exists_cons_of_ne_nil (Nat.toDigits_ne_nil (n := n / 10) (b := 10))
      rw [leading] at before ⊢
      exact before

/-- A number of several digits does not start with a zero. -/
theorem digits_eq_zero (h : (digits n).head? = some '0') : digits n = ['0'] := by
  by_cases zero : n = 0
  · rw [zero]
    rfl
  · exact absurd h (head?_digits_ne_zero n zero)

-----------------------------------------------------------------------------------------
-- Reading
-----------------------------------------------------------------------------------------

/-- A text does not go on with a digit. -/
def NoDigit (rest : List Char) : Prop :=
  ∀ c ∈ rest.head?, c.isDigit = false

theorem NoDigit.cons {c : Char} (other : c.isDigit = false) : NoDigit (c :: rest) := by
  rintro first ⟨⟩
  exact other

/-- A text that starts with digits starts with no other character. -/
theorem ne_of_digits {c : Char} (digits : ∀ d ∈ ds, d.isDigit = true) (some : ds ≠ [])
    (other : c.isDigit = false) (tail : List Char)
    : ds ++ rest ≠ c :: tail := by
  obtain ⟨first, more, rfl⟩ := List.exists_cons_of_ne_nil some
  intro same
  cases (List.cons.inj same).1
  rw [digits c List.mem_cons_self] at other
  cases other

/-- A run of digits ends before what is no digit. -/
theorem takeWhile_append (digits : ∀ c ∈ ds, c.isDigit = true) (stop : NoDigit rest)
    : (ds ++ rest).takeWhile Char.isDigit = ds := by
  rw [List.takeWhile_append_of_pos digits]
  cases rest with
  | nil => rw [List.takeWhile_nil, List.append_nil]
  | cons c tail =>
      rw [List.takeWhile_cons_of_neg (by rw [stop c rfl]; exact Bool.false_ne_true),
        List.append_nil]

theorem takeWhile_digits (digits : ∀ c ∈ ds, c.isDigit = true)
    : ds.takeWhile Char.isDigit = ds := by
  have stop : NoDigit [] := nofun
  simpa only [List.append_nil] using takeWhile_append digits stop

theorem dropWhile_append (digits : ∀ c ∈ ds, c.isDigit = true) (stop : NoDigit rest)
    : (ds ++ rest).dropWhile Char.isDigit = rest := by
  rw [List.dropWhile_append_of_pos digits]
  cases rest with
  | nil => rfl
  | cons c tail => exact List.dropWhile_cons_of_neg (by rw [stop c rfl]; exact Bool.false_ne_true)

-----------------------------------------------------------------------------------------
-- Whole numbers
-----------------------------------------------------------------------------------------

variable {least greatest number : Int}

theorem readDigits?_digits (n : Nat) : readDigits? (digits n) = some n := by
  have all : (digits n).all Char.isDigit = true :=
    List.all_eq_true.mpr fun c => isDigit_of_mem_digits
  rw [readDigits?, if_pos ⟨digits_ne_nil n, all⟩, value_digits]

/-- A whole number within the bounds is read back. -/
theorem readSigned?_ofInt (within : least ≤ number ∧ number ≤ greatest)
    : readSigned? least greatest (ofInt number) = some number := by
  have found (n : Nat) (same : (n : Int) = number)
      : (readDigits? (digits n)).bind (fun n => within? least greatest n) = some number := by
    rw [readDigits?_digits, Option.bind_some, same, within?, if_pos within]
  have plain (n : Nat) {c : Char} (other : c.isDigit = false) (tail : List Char)
      : digits n ≠ c :: tail := by
    intro same
    have digit : c.isDigit = true := isDigit_of_mem_digits (n := n) (by rw [same]; exact .head _)
    rw [digit] at other
    cases other
  cases number with
  | ofNat n =>
      unfold readSigned? ofInt
      split
      · next same => exact absurd same (plain n rfl _)
      · next same => exact absurd same (plain n rfl _)
      · exact found n rfl
  | negSucc n =>
      show (readDigits? (digits (n + 1))).bind _ = _
      rw [readDigits?_digits, Option.bind_some, within?]
      exact if_pos within

/-- What is read lies within the bounds. -/
theorem within_of_readSigned? {cs : List Char}
    (read : readSigned? least greatest cs = some number)
    : least ≤ number ∧ number ≤ greatest := by
  have within {n : Int} (found : within? least greatest n = some number)
      : least ≤ number ∧ number ≤ greatest := by
    unfold within? at found
    split at found
    · next bounds =>
        cases found
        exact bounds
    · cases found
  unfold readSigned? at read
  split at read <;>
  · obtain ⟨n, -, found⟩ := Option.bind_eq_some_iff.mp read
    exact within found

end AdoptionRecords.Text.Decimal
