import AdoptionRecords.Calendar.Text
import AdoptionRecords.Proofs.Reading.Digits

/-! Dates and instants are read back from the texts in which they are written, each of them exactly:
signed and long years, fractions of any precision, and leap seconds.
-/

namespace AdoptionRecords.Calendar

open AdoptionRecords.Text Decimal

variable {ds rest : List Char} {n : Nat}

-----------------------------------------------------------------------------------------
-- Numbers and marks
-----------------------------------------------------------------------------------------

theorem isBlank_of_isDigit {c : Char} (digit : c.isDigit = true) : isBlank c = false := by
  simp only [Char.isDigit, Bool.and_eq_true, decide_eq_true_eq, ge_iff_le, UInt32.le_iff_toNat_le]
    at digit
  obtain ⟨low, high⟩ := digit
  replace low : 48 ≤ c.toNat := low
  replace high : c.toNat ≤ 57 := high
  simp only [isBlank, Bool.or_eq_false_iff, Bool.and_eq_false_iff, decide_eq_false_iff_not,
    beq_eq_false_iff_ne]
  omega

/-- No blank stands before digits. -/
theorem trimStart_digits (digits : ∀ c ∈ ds, c.isDigit = true) (some : ds ≠ [])
    : trimStart (ds ++ rest) = ds ++ rest := by
  obtain ⟨first, more, rfl⟩ := List.exists_cons_of_ne_nil some
  have blank := isBlank_of_isDigit (digits first List.mem_cons_self)
  exact List.dropWhile_cons_of_neg (by rw [blank]; exact Bool.false_ne_true)

/-- A run of digits is as long as it may be, or ends where something else follows. -/
theorem takeWhile_take_append {most : Nat} (digits : ∀ c ∈ ds, c.isDigit = true)
    (stop : ds.length = most ∨ ds.length ≤ most ∧ NoDigit rest)
    : ((ds ++ rest).take most).takeWhile Char.isDigit = ds := by
  obtain rfl | ⟨le, stop⟩ := stop
  · rw [List.take_left, takeWhile_digits digits]
  · rw [List.take_append, List.take_of_length_le le]
    refine takeWhile_append digits fun c head => stop c ?_
    rw [List.head?_take] at head
    split at head
    · cases head
    · exact head

/-- Digits are read as their value if they are as many as may be read, or something else follows. -/
theorem readNumber?_append {most : Nat} (digits : ∀ c ∈ ds, c.isDigit = true) (some : ds ≠ [])
    (stop : ds.length = most ∨ ds.length ≤ most ∧ NoDigit rest)
    : readNumber? most (ds ++ rest) = .some (value ds, rest) := by
  unfold readNumber?
  simp only [takeWhile_take_append digits stop, if_neg some, List.drop_left]

theorem readPart?_append {least greatest : Nat} (lower : least ≤ n) (upper : n ≤ greatest)
    (two : greatest < 100)
    : readPart? least greatest (twoDigits n ++ rest) = some (n, rest) := by
  have digits : ∀ c ∈ twoDigits n, c.isDigit = true := fun c => isDigit_of_mem_padded
  have some := padded_ne_nil 2 n
  have length : (twoDigits n).length = 2 := length_padded (by decide) (by omega)
  unfold readPart?
  rw [trimStart_digits digits some, readNumber?_append digits some (.inl length)]
  simp only [twoDigits, value_padded, Option.bind_eq_bind, Option.bind_some, lower, upper, and_self,
    if_true]

theorem readMark?_cons {mark : Char} (visible : isBlank mark = false)
    : readMark? mark (mark :: rest) = some rest := by
  have trimmed : trimStart (mark :: rest) = mark :: rest :=
    List.dropWhile_cons_of_neg (by rw [visible]; exact Bool.false_ne_true)
  rw [readMark?, trimmed]
  exact if_pos rfl

-----------------------------------------------------------------------------------------
-- Dates
-----------------------------------------------------------------------------------------

/-- A year without a sign has at most four digits. -/
theorem readYear?_digits (digits : ∀ c ∈ ds, c.isDigit = true) (some : ds ≠ [])
    (length : ds.length = 4)
    : readYear? (ds ++ rest) = .some (value ds, rest) := by
  unfold readYear?
  rw [trimStart_digits digits some]
  split
  · next same => exact absurd same (ne_of_digits digits some rfl _)
  · next same => exact absurd same (ne_of_digits digits some rfl _)
  · rw [readNumber?_append digits some (.inl length)]
    rfl

theorem readNumber?_length (digits : ∀ c ∈ ds, c.isDigit = true) (some : ds ≠ [])
    (stop : NoDigit rest)
    : readNumber? (ds ++ rest).length (ds ++ rest) = .some (value ds, rest) := by
  refine readNumber?_append digits some (.inr ⟨?_, stop⟩)
  rw [List.length_append]
  exact Nat.le_add_right _ _

/-- A year is read back, also one with a sign and more than four digits. -/
theorem readYear?_append (year : Int) (stop : NoDigit rest)
    : readYear? (yearText year ++ rest) = some (year, rest) := by
  have digits (n : Nat) : ∀ c ∈ padded 4 n, c.isDigit = true := fun c => isDigit_of_mem_padded
  have some := padded_ne_nil 4
  unfold yearText
  by_cases plain : 0 ≤ year ∧ year ≤ 9999
  · have length : (padded 4 year.toNat).length = 4 := length_padded (by decide) (by omega)
    rw [if_pos plain, readYear?_digits (digits _) (some _) length, value_padded]
    simp only [Option.some.injEq, Prod.mk.injEq, and_true]
    omega
  · rw [if_neg plain, List.cons_append]
    split
    · show (readNumber? _ _).map _ = _
      rw [readNumber?_length (digits _) (some _) stop, value_padded]
      simp only [Option.map_some, Option.some.injEq, Prod.mk.injEq, and_true]
      omega
    · show (readNumber? _ _).map _ = _
      rw [readNumber?_length (digits _) (some _) stop, value_padded]
      simp only [Option.map_some, Option.some.injEq, Prod.mk.injEq, and_true]
      omega

/-- The month and the day of a date lie within the bounds of the calendar. -/
theorem Date.exists_civil (d : Date)
    : ∃ (year : Int) (month day : Nat), d.civil = ⟨year, month, day⟩
      ∧ (1 ≤ month ∧ month ≤ 12) ∧ 1 ≤ day ∧ day ≤ 31 := by
  have bounds : (1 ≤ d.civil.month ∧ d.civil.month ≤ 12) ∧ 1 ≤ d.civil.day ∧ d.civil.day ≤ 31 := by
    unfold civil civilOfDay daysBeforeMonth
    simp only
    omega
  generalize d.civil = civil at bounds
  obtain ⟨year, month, day⟩ := civil
  simp only at bounds
  exact ⟨year, month.toNat, day.toNat, by rw [Int.toNat_of_nonneg, Int.toNat_of_nonneg] <;> omega,
    by omega, by omega⟩

/-- The text of the civil date of a day is read back, whatever follows. -/
theorem readCivil?_append (d : Date) (rest : List Char)
    : readCivil? (d.civil.text ++ rest) = some (d.civil, rest) := by
  obtain ⟨year, month, day, civil, ⟨month_low, month_high⟩, day_low, day_high⟩ := d.exists_civil
  have stop (tail : List Char) : NoDigit ('-' :: tail) := .cons rfl
  have hyphen : isBlank '-' = false := rfl
  rw [civil]
  simp only [readCivil?, Civil.text, Int.toNat_natCast, List.append_assoc, List.cons_append,
    readYear?_append year (stop _), readMark?_cons hyphen,
    readPart?_append month_low month_high (by decide),
    readPart?_append day_low day_high (by decide), Option.bind_eq_bind, Option.bind_some,
    Option.pure_def]

theorem Date.ofCivil?_civil (d : Date) : ofCivil? d.civil = some d := by
  unfold ofCivil? civil
  rw [dayOfCivil_civilOfDay, if_pos rfl, ofDay?_day]

/-- A date is read back from its text. -/
theorem Date.read?_text (d : Date) : read? d.text = some d := by
  have civil := readCivil?_append d []
  rw [List.append_nil] at civil
  simp only [read?, text, String.toList_ofList, civil, Option.bind_eq_bind, Option.bind_some,
    d.ofCivil?_civil]
  rfl

-----------------------------------------------------------------------------------------
-- Instants
-----------------------------------------------------------------------------------------

/-- A fraction in some digits is read back as nanoseconds. -/
theorem readFraction?_padded {width : Nat} (pos : 0 < width) (le : width ≤ 9)
    (fits : n < 10 ^ width) (stop : NoDigit rest)
    : readFraction? ('.' :: padded width n ++ rest) = some (n * 10 ^ (9 - width), rest) := by
  have digits : ∀ c ∈ padded width n, c.isDigit = true := fun c => isDigit_of_mem_padded
  have some := padded_ne_nil width n
  have length := length_padded pos fits
  have within : (padded width n).length = 9 ∨ (padded width n).length ≤ 9 ∧ NoDigit rest :=
    .inr ⟨Nat.le_trans (Nat.le_of_eq length) le, stop⟩
  simp only [readFraction?, List.cons_append, Option.bind_eq_bind,
    readNumber?_append digits some within, Option.bind_some, takeWhile_take_append digits within,
    length, value_padded, dropWhile_append digits stop, Option.pure_def]
  rfl

/-- The fraction of a second is read back, in as many digits as it is written. -/
theorem readFraction?_append (i : Instant) (stop : NoDigit rest) (other : rest.head? ≠ some '.')
    : readFraction? (i.fractionText ++ rest) = some (i.nanos % nanosPerSecond, rest) := by
  have below : i.nanos % nanosPerSecond < 1000000000 := Nat.mod_lt _ (by decide)
  unfold Instant.fractionText
  generalize i.nanos % nanosPerSecond = n at below
  simp only
  split
  · next zero =>
      subst zero
      unfold readFraction?
      split
      · next same => exact absurd (congrArg List.head? same) other
      · rfl
  split
  · next whole =>
      rw [readFraction?_padded (by decide) (by decide) (by omega) stop]
      have scaled : n / 1000000 * 10 ^ (9 - 3) = n := by omega
      rw [scaled]
  split
  · next whole =>
      rw [readFraction?_padded (by decide) (by decide) (by omega) stop]
      have scaled : n / 1000 * 10 ^ (9 - 6) = n := by omega
      rw [scaled]
  · rw [readFraction?_padded (by decide) (by decide) (by omega) stop]
    have scaled : n * 10 ^ (9 - 9) = n := by omega
    rw [scaled]

theorem Instant.secondOfDay_lt (i : Instant) : i.secondOfDay < 86400 := by
  unfold secondOfDay secondsPerDay
  omega

/-- A leap second is the last of a minute, and its nanoseconds run on. -/
theorem Instant.nanos_of_isLeap {i : Instant} (leap : i.isLeap = true)
    : i.secondOfDay % 60 = 59 ∧ i.nanos = nanosPerSecond + i.nanos % nanosPerSecond := by
  have late : nanosPerSecond ≤ i.nanos := of_decide_eq_true leap
  obtain early | ⟨below, last⟩ := i.fraction
  · omega
  · unfold secondOfDay secondsPerDay
    unfold nanosPerSecond at *
    omega

theorem Instant.nanos_of_not_isLeap {i : Instant} (plain : i.isLeap = false)
    : i.nanos % nanosPerSecond = i.nanos :=
  Nat.mod_eq_of_lt (Nat.lt_of_not_le (of_decide_eq_false plain))

/-- The time of day is read back, that of a leap second too. -/
theorem readClock?_append (i : Instant) (stop : NoDigit rest) (other : rest.head? ≠ some '.')
    : readClock? (i.clockText ++ i.fractionText ++ rest) = some (i.secondOfDay, i.nanos, rest) := by
  have bound := i.secondOfDay_lt
  have hour : i.secondOfDay / 3600 ≤ 23 := by omega
  have minute : i.secondOfDay / 60 % 60 ≤ 59 := by omega
  have colon : isBlank ':' = false := rfl
  have whole : i.secondOfDay / 3600 * 3600 + i.secondOfDay / 60 % 60 * 60 + i.secondOfDay % 60
      = i.secondOfDay := by omega
  cases leap : i.isLeap with
  | false =>
      have second : i.secondOfDay % 60 ≤ 60 := by omega
      have ordinary : i.secondOfDay % 60 ≠ 60 := by omega
      simp only [readClock?, Instant.clockText, leap, Bool.false_eq_true, if_false,
        List.append_assoc, List.cons_append, readMark?_cons colon, Option.bind_eq_bind,
        readPart?_append (Nat.zero_le _) hour (by decide),
        readPart?_append (Nat.zero_le _) minute (by decide),
        readPart?_append (Nat.zero_le _) second (by decide), readFraction?_append i stop other,
        Option.bind_some, if_neg ordinary, Option.pure_def, Nat.add_zero, whole,
        Instant.nanos_of_not_isLeap leap]
  | true =>
      obtain ⟨last, nanos⟩ := Instant.nanos_of_isLeap leap
      have second : i.secondOfDay % 60 + 1 ≤ 60 := by omega
      have sixtieth : i.secondOfDay % 60 + 1 = 60 := by omega
      rw [last] at whole
      simp only [readClock?, Instant.clockText, leap, if_true,
        List.append_assoc, List.cons_append, readMark?_cons colon, Option.bind_eq_bind,
        readPart?_append (Nat.zero_le _) hour (by decide),
        readPart?_append (Nat.zero_le _) minute (by decide),
        readPart?_append (Nat.zero_le _) second (by decide), readFraction?_append i stop other,
        Option.bind_some, if_pos sixtieth, Option.pure_def, whole, ← nanos]

theorem Instant.of?_second_nanos (i : Instant) : of? i.second i.nanos = some i :=
  dif_pos ⟨i.covered, i.fraction⟩

/-- An instant is read back from its text. -/
theorem Instant.read?_text (i : Instant) : read? i.text = some i := by
  have stop : NoDigit ['Z'] := .cons rfl
  have clock := readClock?_append i stop (by decide)
  have zone : readZone? ['Z'] = some (0, []) := rfl
  have whole : i.date.day * secondsPerDay + (i.secondOfDay : Int) - 0 = i.second := by
    unfold date secondOfDay secondsPerDay
    simp only
    omega
  simp only [List.append_assoc] at clock
  simp only [read?, text, String.toList_ofList, List.append_assoc, List.cons_append,
    readCivil?_append, i.date.ofCivil?_civil, Option.bind_eq_bind, Option.bind_some, clock, zone,
    whole, i.of?_second_nanos]
  rfl

end AdoptionRecords.Calendar
