import AdoptionRecords.Proofs.Reading.Digits
import Mathlib.Data.List.Induction

/-! The texts that stand for whole numbers: one or more digits, of which each counts ten times as
much as the one behind it, and perhaps a sign in front of them, minus only where numbers can be
negative. A number is read from exactly these texts, if it lies within the bounds.
-/

namespace AdoptionRecords.Text.Decimal

/-- (Digits cs n) holds if the text cs is made of digits and stands for the number n. -/
inductive Digits : List Char → Nat → Prop
  | one (d : Fin 10) : Digits [Nat.digitChar d] d
  | more {cs n} (front : Digits cs n) (d : Fin 10)
    : Digits (cs ++ [Nat.digitChar d]) (10 * n + d)

/-- (Numeral signed cs n) holds if the text cs stands for the number n: digits with a sign or
without one, where minus is a sign only if signed says so.
-/
inductive Numeral (signed : Bool) : List Char → Int → Prop
  | plain {cs n} (digits : Digits cs n) : Numeral signed cs n
  | plus {cs n} (digits : Digits cs n) : Numeral signed ('+' :: cs) n
  | minus {cs n} (allowed : signed = true) (digits : Digits cs n) : Numeral signed ('-' :: cs) (-n)

variable {cs : List Char} {n : Nat} {least greatest number : Int}

-----------------------------------------------------------------------------------------
-- Digits
-----------------------------------------------------------------------------------------

/-- A digit is the character of a number below ten. -/
theorem exists_digitChar {c : Char} (digit : c.isDigit = true)
    : ∃ d : Fin 10, c = Nat.digitChar d := by
  rw [Char.isDigit, Bool.and_eq_true, decide_eq_true_eq, decide_eq_true_eq] at digit
  have bounds : 48 ≤ c.toNat ∧ c.toNat ≤ 57 := digit
  have below : c.toNat - 48 < 10 := by omega
  refine ⟨⟨c.toNat - 48, below⟩, ?_⟩
  apply Char.toNat_inj.mp
  rw [Nat.toNat_digitChar_of_lt_ten below]
  omega

/-- One more digit makes a run of digits count ten times as much. -/
theorem value_append_digitChar (cs : List Char) (d : Fin 10)
    : value (cs ++ [Nat.digitChar d]) = 10 * value cs + d := by
  rw [value, Nat.ofDigitChars_append, Nat.ofDigitChars_cons_digitChar_of_lt_ten d.isLt,
    Nat.ofDigitChars_nil]
  rfl

/-- What stands for a number is a text of digits that has the number's value, by induction on the
digits.
-/
theorem Digits.value_eq (h : Digits cs n)
    : cs ≠ [] ∧ (∀ c ∈ cs, c.isDigit = true) ∧ value cs = n := by
  have digit (d : Fin 10) : ∀ c ∈ [Nat.digitChar d], c.isDigit = true := by
    rw [List.forall_mem_singleton, Nat.isDigit_digitChar]
    exact decide_eq_true d.isLt
  induction h with
  | one d => exact ⟨nofun, digit d, (value_append_digitChar [] d).trans (Nat.zero_add _)⟩
  | more front d ih =>
      obtain ⟨-, digits, same⟩ := ih
      refine ⟨List.append_ne_nil_of_right_ne_nil _ nofun, ?_, ?_⟩
      · exact List.forall_mem_append.mpr ⟨digits, digit d⟩
      · rw [value_append_digitChar, same]

/-- Every text of digits stands for its value, by induction on the digits from the last. -/
theorem digits_value (some : cs ≠ []) (digits : ∀ c ∈ cs, c.isDigit = true)
    : Digits cs (value cs) := by
  induction cs using List.reverseRecOn with
  | nil => exact absurd rfl some
  | append_singleton front c ih =>
      obtain ⟨before, last⟩ := List.forall_mem_append.mp digits
      obtain ⟨d, rfl⟩ := exists_digitChar (last c List.mem_cons_self)
      rw [value_append_digitChar]
      by_cases none : front = []
      · subst none
        exact (Nat.zero_add d.val).symm ▸ .one d
      · exact .more (ih none before) d

/-- Digits are read as the number for which they stand, and nothing else is read as digits. -/
theorem readDigits?_eq_some_iff : readDigits? cs = some n ↔ Digits cs n := by
  unfold readDigits?
  constructor
  · intro read
    split at read
    · next digits =>
        cases read
        exact digits_value digits.1 (List.all_eq_true.mp digits.2)
    · cases read
  · intro digits
    obtain ⟨some, all, same⟩ := digits.value_eq
    rw [if_pos ⟨some, List.all_eq_true.mpr all⟩, same]

-----------------------------------------------------------------------------------------
-- Signs
-----------------------------------------------------------------------------------------

variable {signed : Bool}

/-- A sign is no digit. -/
theorem not_digits_cons {c : Char} (sign : c.isDigit = false) : ¬ Digits (c :: cs) n := by
  intro digits
  have digit := digits.value_eq.2.1 c List.mem_cons_self
  rw [sign] at digit
  cases digit

theorem numeral_plus_iff
    : Numeral signed ('+' :: cs) number ↔ ∃ n : Nat, Digits cs n ∧ n = number := by
  constructor
  · intro numeral
    cases numeral with
    | plain digits => exact absurd digits (not_digits_cons rfl)
    | plus digits => exact ⟨_, digits, rfl⟩
  · rintro ⟨n, digits, rfl⟩
    exact .plus digits

theorem numeral_minus_iff
    : Numeral true ('-' :: cs) number ↔ ∃ n : Nat, Digits cs n ∧ -(n : Int) = number := by
  constructor
  · intro numeral
    cases numeral with
    | plain digits => exact absurd digits (not_digits_cons rfl)
    | minus _ digits => exact ⟨_, digits, rfl⟩
  · rintro ⟨n, digits, rfl⟩
    exact .minus rfl digits

/-- A text without a sign stands for a number if it is made of digits. -/
theorem numeral_plain_iff (noPlus : ∀ rest, cs ≠ '+' :: rest)
    (noMinus : signed = true → ∀ rest, cs ≠ '-' :: rest)
    : Numeral signed cs number ↔ ∃ n : Nat, Digits cs n ∧ n = number := by
  constructor
  · intro numeral
    cases numeral with
    | plain digits => exact ⟨_, digits, rfl⟩
    | plus => exact absurd rfl (noPlus _)
    | minus allowed => exact absurd rfl (noMinus allowed _)
  · rintro ⟨n, digits, rfl⟩
    exact .plain digits

-----------------------------------------------------------------------------------------
-- Reading
-----------------------------------------------------------------------------------------

theorem within?_eq_some_iff {n : Int}
    : within? least greatest n = some number ↔ n = number ∧ least ≤ number ∧ number ≤ greatest := by
  unfold within?
  split
  · next within =>
      rw [Option.some.injEq]
      exact ⟨fun same => ⟨same, same ▸ within⟩, And.left⟩
  · next beyond =>
      refine iff_of_false nofun ?_
      rintro ⟨rfl, within⟩
      exact beyond within

/-- Digits behind a sign, or behind none, are read as the number that the sign makes of them. -/
theorem bind_within?_eq_some_iff (sign : Nat → Int)
    : (readDigits? cs).bind (fun n => within? least greatest (sign n)) = some number
      ↔ (∃ n, Digits cs n ∧ sign n = number) ∧ least ≤ number ∧ number ≤ greatest := by
  simp only [Option.bind_eq_some_iff, readDigits?_eq_some_iff, within?_eq_some_iff]
  constructor
  · rintro ⟨n, digits, same, within⟩
    exact ⟨⟨n, digits, same⟩, within⟩
  · rintro ⟨⟨n, digits, same⟩, within⟩
    exact ⟨n, digits, same, within⟩

/-- A signed number is read from the texts that stand for it, if it lies within the bounds, and from
no other text.
-/
theorem readSigned?_eq_some_iff
    : readSigned? least greatest cs = some number
      ↔ Numeral true cs number ∧ least ≤ number ∧ number ≤ greatest := by
  unfold readSigned?
  split
  · rw [bind_within?_eq_some_iff, numeral_plus_iff]
  · rw [bind_within?_eq_some_iff (fun n => -(n : Int)), numeral_minus_iff]
  · next noPlus noMinus => rw [bind_within?_eq_some_iff, numeral_plain_iff noPlus fun _ => noMinus]

/-- Where minus is a sign it may stay unused. -/
theorem Numeral.allow (h : Numeral signed cs number) : Numeral true cs number := by
  cases h with
  | plain digits => exact .plain digits
  | plus digits => exact .plus digits
  | minus _ digits => exact .minus rfl digits

/-- No text stands for two numbers, since reading it between these finds one only. -/
theorem Numeral.unique {other : Int} (h : Numeral signed cs number) (h' : Numeral signed cs other)
    : number = other := by
  have read : readSigned? (min number other) (max number other) cs = some number :=
    readSigned?_eq_some_iff.mpr ⟨h.allow, Int.min_le_left .., Int.le_max_left ..⟩
  have read' : readSigned? (min number other) (max number other) cs = some other :=
    readSigned?_eq_some_iff.mpr ⟨h'.allow, Int.min_le_right .., Int.le_max_right ..⟩
  exact Option.some.inj (read.symm.trans read')

/-- An unsigned number is read from the texts that stand for it without a minus sign. -/
theorem readUnsigned?_eq_some_iff
    : readUnsigned? greatest cs = some number
      ↔ Numeral false cs number ∧ 0 ≤ number ∧ number ≤ greatest := by
  unfold readUnsigned?
  split
  · rw [bind_within?_eq_some_iff, numeral_plus_iff]
  · next noPlus => rw [bind_within?_eq_some_iff, numeral_plain_iff noPlus Bool.noConfusion]

end AdoptionRecords.Text.Decimal
