import AdoptionRecords.Json.Node
import AdoptionRecords.Proofs.Reading.Digits

/-! JSON text is read as the value that it spells. Between the tokens there may be any blanks, so
the compact text of a value and its text with a line for each item are two of many that are read
alike.
-/

namespace AdoptionRecords.Json

open Text Decimal

namespace Node

-----------------------------------------------------------------------------------------
-- Texts in quotes
-----------------------------------------------------------------------------------------

theorem hexValue?_hexDigit {n : Nat} (lt : n < 16) : hexValue? (hexDigit n) = some n := by
  have (m : Fin 16) : hexValue? (hexDigit m) = some m.val := by decide +revert
  exact this ⟨n, lt⟩

/-- A control character is told back from its number. -/
theorem hexValues?_control {c : Char} (control : c.toNat < 0x20)
    : hexValues? '0' '0' (hexDigit (c.toNat / 16)) (hexDigit (c.toNat % 16)) = some c.toNat := by
  have high := hexValue?_hexDigit (n := c.toNat / 16) (by omega)
  have low := hexValue?_hexDigit (n := c.toNat % 16) (by omega)
  have zero : hexValue? '0' = some 0 := rfl
  simp only [hexValues?, zero, high, low, Option.bind_eq_bind, Option.bind_some, Option.pure_def]
  congr 1
  omega

theorem pieceOf_control {c : Char} (control : c.toNat < 0x20) : pieceOf c.toNat = .char c := by
  unfold pieceOf
  rw [if_neg (by omega), Char.ofNat_toNat]

/-- A character that needs no escape is scanned as it stands. -/
theorem scan_cons {c : Char} (quote : c ≠ '"') (backslash : c ≠ '\\') (visible : ¬ c.toNat < 0x20)
    (rest : List Char)
    : scan (c :: rest) = (.char c :: (scan rest).1, (scan rest).2) := by
  rw [scan.eq_def]
  split
  · next none => cases none
  · next same => exact absurd (List.cons.inj same).1 quote
  · next same => exact absurd (List.cons.inj same).1 backslash
  · next same => exact absurd (List.cons.inj same).1 backslash
  · next same => exact absurd (List.cons.inj same).1 backslash
  · next same => exact absurd (List.cons.inj same).1 backslash
  · next same =>
      cases same
      exact if_neg visible

/-- A character is scanned back from the way it is written inside quotes. -/
theorem scan_escaped (c : Char) (rest : List Char)
    : scan (escaped c ++ rest) = (.char c :: (scan rest).1, (scan rest).2) := by
  unfold escaped
  split
  · next quote => subst quote; rfl
  next quote =>
  split
  · next backslash => subst backslash; rfl
  next backslash =>
  -- The named control characters, and then the others.
  iterate 5
    split
    · next named => subst named; rfl
  split
  · next control =>
      simp only [List.cons_append, List.nil_append, scan, hexValues?_control control,
        pieceOf_control control]
  · next visible => exact scan_cons quote backslash visible rest

/-- All characters of a text are scanned back, up to the closing quote, by induction on them. -/
theorem scan_flatMap_escaped (cs rest : List Char)
    : scan (cs.flatMap escaped ++ '"' :: rest) = (cs.map .char, .ok rest) := by
  induction cs with
  | nil => rw [List.flatMap_nil, List.nil_append, scan, List.map_nil]
  | cons c cs ih =>
      rw [List.flatMap_cons, List.append_assoc, scan_escaped, ih, List.map_cons]

theorem assemble_map_char (cs : List Char) : assemble none (cs.map .char) = .ok cs := by
  induction cs with
  | nil => rfl
  | cons c cs ih =>
      rw [List.map_cons, assemble, ih]
      rfl

/-- A text is read back from its quotes. -/
theorem readText_quoted (s : String) (rest : List Char)
    : readText (s.toList.flatMap escaped ++ '"' :: rest) = (text (.ok s), rest) := by
  rw [readText, scan_flatMap_escaped]
  simp only [assemble_map_char, Except.map, String.ofList_toList]

-----------------------------------------------------------------------------------------
-- Numbers
-----------------------------------------------------------------------------------------

/-- A text goes on with nothing that would belong to a number before it. -/
def Ends (rest : List Char) : Prop :=
  ∀ c ∈ rest.head?, c.isDigit = false ∧ c ≠ '.' ∧ c ≠ 'e' ∧ c ≠ 'E'

theorem Ends.noDigit {rest : List Char} (h : Ends rest) : NoDigit rest :=
  fun c head => (h c head).1

/-- The significand and the power of ten of a whole number that is too long to be kept as one. -/
def leading (n : Nat) : Nat × Int :=
  Number.ofDigits (digits n) []

/-- What a whole number is read as, given by its sign and its size. -/
def ofSize (negative : Bool) (n : Nat) : Node :=
  if isWhole negative n then .int (if negative then -n else n)
  else .real (leading n).1 (leading n).2

section Numbers

variable {rest : List Char} (negative : Bool) (n : Nat)

/-- The digits of a number never start with a zero that others follow. -/
theorem not_leadingZero : ¬ ((digits n).head? = some '0' ∧ digits n ≠ ['0']) :=
  fun h => h.2 (digits_eq_zero h.1)

theorem readNumber_digits (stop : Ends rest)
    : readNumber negative (digits n ++ rest) = (ofSize negative n, rest) := by
  have taken := takeWhile_append (fun _ => isDigit_of_mem_digits (n := n)) stop.noDigit
  unfold readNumber ofSize leading
  simp only [taken, if_neg (digits_ne_nil n), if_neg (not_leadingZero n), List.drop_left]
  rcases rest with _ | ⟨c, tail⟩
  · simp only [value_digits, Option.getD_none, reduceCtorEq, if_false, true_and]
    split <;> rfl
  · obtain ⟨-, point, lower, upper⟩ := stop c rfl
    simp [point, lower, upper, value_digits]
    split <;> rfl

theorem readExponent_digits (significand : Nat) (power : Int) {ds : List Char}
    (digits : ∀ c ∈ ds, c.isDigit = true) (some : ds ≠ []) (stop : NoDigit rest)
    : readExponent significand power (ds ++ rest)
      = (.real significand (power + value ds), rest) := by
  have taken := takeWhile_append digits stop
  obtain ⟨first, more, rfl⟩ := List.exists_cons_of_ne_nil some
  have digit := digits first List.mem_cons_self
  have minus : first ≠ '-' := by rintro rfl; cases digit
  have plus : first ≠ '+' := by rintro rfl; cases digit
  rw [List.cons_append] at taken ⊢
  unfold readExponent
  simp [minus, plus, taken]

/-- A power of ten is read back with its sign. -/
theorem readExponent_ofInt (significand : Nat) (power e : Int) (stop : NoDigit rest)
    : readExponent significand power (ofInt e ++ rest) = (.real significand (power + e), rest) := by
  have digit (m : Nat) : ∀ c ∈ digits m, c.isDigit = true := fun _ => isDigit_of_mem_digits
  cases e with
  | ofNat m =>
      rw [ofInt, readExponent_digits _ _ (digit m) (digits_ne_nil m) stop, value_digits]
      rfl
  | negSucc m =>
      have taken := takeWhile_append (digit (m + 1)) stop
      unfold readExponent
      simp only [ofInt, List.cons_append, taken, if_neg (digits_ne_nil (m + 1)),
        List.drop_left, value_digits]
      rfl

theorem readNumber_real (e : Int) (stop : Ends rest)
    : readNumber negative (digits n ++ 'e' :: (ofInt e ++ rest))
      = (.real (leading n).1 ((leading n).2 + e), rest) := by
  have mark : NoDigit ('e' :: (ofInt e ++ rest)) := .cons rfl
  have taken := takeWhile_append (fun _ => isDigit_of_mem_digits (n := n)) mark
  unfold readNumber
  simp only [taken, if_neg (digits_ne_nil n), if_neg (not_leadingZero n), List.drop_left]
  exact readExponent_ofInt _ _ e stop.noDigit

end Numbers

end Node

mutual

/-- What a value is read as. -/
def node : Json → Node
  | null => .null
  | bool value => .bool value
  | int n => .ofSize (n < 0) n.natAbs
  | real m e => .real (Node.leading m.natAbs).1 ((Node.leading m.natAbs).2 + e)
  | text s => .text (.ok s)
  | array items => .array (nodes items) none
  | object members => .object (memberNodes members) none

/-- What items are read as. -/
def nodes : List Json → List Node
  | [] => []
  | item :: rest => item.node :: nodes rest

/-- What members are read as. -/
def memberNodes : List (String × Json) → List (Node × Node)
  | [] => []
  | (name, value) :: rest => (.text (.ok name), value.node) :: memberNodes rest

end

-----------------------------------------------------------------------------------------
-- The texts of a value
-----------------------------------------------------------------------------------------

/-- Whether a value holds no others. -/
def isPlain : Json → Bool
  | array _ | object _ => false
  | _ => true

/-- Blanks between tokens. -/
def IsGap (cs : List Char) : Prop :=
  ∀ c ∈ cs, Node.isSpace c = true

mutual

/-- Whether a text spells a value: as it is written without blanks, or with any blanks around its
items and members.
-/
def Spells : Json → List Char → Prop
  | array [], cs => ∃ gap, IsGap gap ∧ cs = '[' :: (gap ++ [']'])
  | array (first :: rest), cs =>
      ∃ before value more, IsGap before ∧ Spells first value ∧ SpellsItems rest more
        ∧ cs = '[' :: (before ++ value ++ more ++ [']'])
  | object [], cs => ∃ gap, IsGap gap ∧ cs = '{' :: (gap ++ ['}'])
  | object (first :: rest), cs =>
      ∃ before colon gap value more, IsGap before ∧ IsGap colon ∧ IsGap gap
        ∧ Spells first.2 value ∧ SpellsMembers rest more
        ∧ cs = '{' :: (before ++ quoted first.1 ++ colon ++ ':' :: (gap ++ value ++ more) ++ ['}'])
  | plain, cs => cs = plain.compact

/-- Whether a text spells the items of an array after the first, each with the comma before it. -/
def SpellsItems : List Json → List Char → Prop
  | [], cs => IsGap cs
  | item :: rest, cs =>
      ∃ after before value more, IsGap after ∧ IsGap before ∧ Spells item value
        ∧ SpellsItems rest more ∧ cs = after ++ ',' :: (before ++ value ++ more)

/-- Whether a text spells the members of an object after the first, each with the comma before it.
-/
def SpellsMembers : List (String × Json) → List Char → Prop
  | [], cs => IsGap cs
  | (name, item) :: rest, cs =>
      ∃ after before colon gap value more, IsGap after ∧ IsGap before ∧ IsGap colon ∧ IsGap gap
        ∧ Spells item value ∧ SpellsMembers rest more
        ∧ cs = after ++ ',' :: (before ++ quoted name ++ colon ++ ':' :: (gap ++ value ++ more))

end

theorem isGap_nil : IsGap [] :=
  nofun

mutual

/-- The text of a value without blanks spells it. -/
theorem spells_compact : (j : Json) → Spells j j.compact
  | null | bool _ | int _ | real _ _ | text _ => by simp only [Spells]
  | array [] => by
      rw [Spells]
      exact ⟨[], isGap_nil, rfl⟩
  | array (first :: rest) => by
      rw [Spells, compact]
      exact ⟨[], _, _, isGap_nil, spells_compact first, spellsItems_compact rest, rfl⟩
  | object [] => by
      rw [Spells]
      exact ⟨[], isGap_nil, rfl⟩
  | object (first :: rest) => by
      rw [Spells, compact]
      refine ⟨[], [], [], _, _, isGap_nil, isGap_nil, isGap_nil, spells_compact first.2,
        spellsMembers_compact rest, ?_⟩
      simp only [List.nil_append, List.append_nil, List.append_assoc, List.cons_append]

theorem spellsItems_compact : (rest : List Json) → SpellsItems rest (compactItems rest)
  | [] => by
      rw [SpellsItems]
      exact isGap_nil
  | item :: rest => by
      rw [SpellsItems, compactItems]
      exact ⟨[], [], _, _, isGap_nil, isGap_nil, spells_compact item, spellsItems_compact rest, rfl⟩

theorem spellsMembers_compact : (rest : List (String × Json))
    → SpellsMembers rest (compactMembers rest)
  | [] => by
      rw [SpellsMembers]
      exact isGap_nil
  | (name, item) :: rest => by
      rw [SpellsMembers, compactMembers]
      refine ⟨[], [], [], [], _, _, isGap_nil, isGap_nil, isGap_nil, isGap_nil,
        spells_compact item, spellsMembers_compact rest, ?_⟩
      simp only [List.nil_append, List.append_nil, List.append_assoc, List.cons_append]

end

theorem isGap_lineStart (depth : Nat) : IsGap (lineStart depth) := by
  intro c member
  obtain rfl | filler := List.mem_cons.mp member
  · rfl
  · rw [List.eq_of_mem_replicate filler]
    rfl

theorem isGap_space : IsGap [' '] := by
  intro c member
  rw [List.mem_singleton.mp member]
  rfl

mutual

/-- The text of a value with a line for each item and member spells it. -/
theorem spells_prettyAt : (depth : Nat) → (j : Json) → Spells j (prettyAt depth j)
  | _, null | _, bool _ | _, int _ | _, real _ _ | _, text _ => by simp only [Spells, prettyAt]
  | _, array [] => by
      simp only [prettyAt]
      exact spells_compact (array [])
  | depth, array (first :: rest) => by
      rw [Spells, prettyAt]
      refine ⟨lineStart (depth + 1), _, _, isGap_lineStart _, spells_prettyAt (depth + 1) first,
        spellsItems_pretty (depth + 1) (isGap_lineStart depth) rest, ?_⟩
      simp only [List.append_assoc]
  | _, object [] => by
      simp only [prettyAt]
      exact spells_compact (object [])
  | depth, object (first :: rest) => by
      rw [Spells, prettyAt]
      refine ⟨lineStart (depth + 1), [], [' '], _, _, isGap_lineStart _, isGap_nil, isGap_space,
        spells_prettyAt (depth + 1) first.2,
        spellsMembers_pretty (depth + 1) (isGap_lineStart depth) rest, ?_⟩
      simp only [List.nil_append, List.append_nil, List.append_assoc, List.cons_append]

theorem spellsItems_pretty : (depth : Nat) → {closing : List Char} → IsGap closing
    → (rest : List Json) → SpellsItems rest (prettyItems depth rest ++ closing)
  | _, _, gap, [] => by
      rw [SpellsItems, prettyItems]
      exact gap
  | depth, closing, gap, item :: rest => by
      rw [SpellsItems, prettyItems]
      refine ⟨[], lineStart depth, _, _, isGap_nil, isGap_lineStart _, spells_prettyAt depth item,
        spellsItems_pretty depth gap rest, ?_⟩
      simp only [List.nil_append, List.append_assoc, List.cons_append]

theorem spellsMembers_pretty : (depth : Nat) → {closing : List Char} → IsGap closing
    → (rest : List (String × Json)) → SpellsMembers rest (prettyMembers depth rest ++ closing)
  | _, _, gap, [] => by
      rw [SpellsMembers, prettyMembers]
      exact gap
  | depth, closing, gap, (name, item) :: rest => by
      rw [SpellsMembers, prettyMembers]
      refine ⟨[], lineStart depth, [], [' '], _, _, isGap_nil, isGap_lineStart _, isGap_nil,
        isGap_space, spells_prettyAt depth item, spellsMembers_pretty depth gap rest, ?_⟩
      simp only [List.nil_append, List.append_nil, List.append_assoc, List.cons_append]

end

-----------------------------------------------------------------------------------------
-- Reading
-----------------------------------------------------------------------------------------

namespace Node

variable {gap rest tail : List Char} {c : Char}

theorem skipSpace_append (blank : IsGap gap) : skipSpace (gap ++ rest) = skipSpace rest :=
  List.dropWhile_append_of_pos blank

theorem skipSpace_cons (visible : isSpace c = false) : skipSpace (c :: rest) = c :: rest :=
  List.dropWhile_cons_of_neg (by rw [visible]; exact Bool.false_ne_true)

theorem skipSpace_gap (blank : IsGap gap) (visible : isSpace c = false)
    : skipSpace (gap ++ c :: rest) = c :: rest := by
  rw [skipSpace_append blank, skipSpace_cons visible]

theorem skipSpace_quoted (blank : IsGap gap) (name : String)
    : skipSpace (gap ++ (quoted name ++ rest)) = quoted name ++ rest :=
  skipSpace_gap blank rfl

theorem isSpace_of_isDigit (digit : c.isDigit = true) : isSpace c = false := by
  cases blank : isSpace c with
  | false => rfl
  | true =>
      simp only [isSpace, Bool.or_eq_true, beq_iff_eq] at blank
      obtain ((rfl | rfl) | rfl) | rfl := blank <;> cases digit

theorem Ends.cons (other : c.isDigit = false ∧ c ≠ '.' ∧ c ≠ 'e' ∧ c ≠ 'E') : Ends (c :: rest) := by
  rintro first ⟨⟩
  exact other

/-- Blanks end a number, and so does what ends it after them. -/
theorem Ends.append (blank : IsGap gap) (stop : Ends rest) : Ends (gap ++ rest) := by
  cases gap with
  | nil => exact stop
  | cons c more =>
      have space := blank c List.mem_cons_self
      simp only [isSpace, Bool.or_eq_true, beq_iff_eq] at space
      refine .cons ?_
      obtain ((rfl | rfl) | rfl) | rfl := space <;> decide

theorem read_of_digit {cs : List Char} (starts : skipSpace cs = c :: rest)
    (digit : c.isDigit = true) (fuel : Nat)
    : read (fuel + 1) cs = readNumber false (c :: rest) := by
  rw [read, starts]
  split
  · next none => cases none
  iterate 7
    · next same =>
        cases same
        cases digit
  · next same =>
      cases same
      exact if_pos digit

/-- A number is read from its sign and its digits on, after any blanks. -/
theorem read_ofInt (blank : IsGap gap) (n : Int) (fuel : Nat)
    : read (fuel + 1) (gap ++ (ofInt n ++ rest))
      = readNumber (n < 0) (digits n.natAbs ++ rest) := by
  cases n with
  | ofNat m =>
      obtain ⟨first, more, leads⟩ := List.exists_cons_of_ne_nil (digits_ne_nil m)
      have digit : first.isDigit = true := isDigit_of_mem_digits (leads ▸ List.mem_cons_self)
      have starts : skipSpace (gap ++ (digits m ++ rest)) = first :: (more ++ rest) := by
        rw [skipSpace_append blank, leads]
        exact skipSpace_cons (isSpace_of_isDigit digit)
      rw [ofInt, read_of_digit starts digit, ← List.cons_append, ← leads]
      rfl
  | negSucc m =>
      have negative : decide (Int.negSucc m < 0) = true := decide_eq_true (Int.negSucc_lt_zero m)
      rw [ofInt, List.cons_append, read, skipSpace_append blank, skipSpace_cons rfl, negative]
      rfl

/-- A value that holds no others is read back from its text, after any blanks. -/
theorem read_plain {j : Json} (plain : j.isPlain = true) (blank : IsGap gap) {cs : List Char}
    (spelled : Spells j cs) (stop : Ends tail) (fuel : Nat)
    : read (fuel + 1) (gap ++ (cs ++ tail)) = (j.node, tail) := by
  have same : cs = j.compact := by
    cases j with
    | array | object => cases plain
    | null | bool | int | real | text => simpa only [Spells] using spelled
  subst same
  cases j with
  | null | bool value =>
      try cases value
      all_goals
        rw [compact, List.cons_append, read, skipSpace_append blank, skipSpace_cons rfl]
        rfl
  | int n => rw [compact, read_ofInt blank, readNumber_digits _ _ stop, node]
  | real m e =>
      rw [compact, List.append_assoc, read_ofInt blank, List.cons_append,
        readNumber_real _ _ _ stop, node]
  | text s =>
      rw [compact, quoted, List.cons_append, read, skipSpace_append blank, skipSpace_cons rfl, node,
        List.append_assoc]
      exact readText_quoted s tail
  | array | object => cases plain

theorem exists_cons_ofInt (n : Int)
    : ∃ first more, ofInt n = first :: more ∧ isSpace first = false ∧ first ≠ ']' := by
  cases n with
  | ofNat m =>
      obtain ⟨first, more, leads⟩ := List.exists_cons_of_ne_nil (digits_ne_nil m)
      have digit : first.isDigit = true := isDigit_of_mem_digits (leads ▸ List.mem_cons_self)
      exact ⟨first, more, leads, isSpace_of_isDigit digit, by rintro rfl; cases digit⟩
  | negSucc m => exact ⟨_, _, rfl, rfl, by decide⟩

/-- A text that spells a value starts with a character that is no blank and closes no array. -/
theorem exists_cons_of_spells {j : Json} {cs : List Char} (h : Spells j cs)
    : ∃ first more, cs = first :: more ∧ isSpace first = false ∧ first ≠ ']' := by
  cases j with
  | null =>
      simp only [Spells, compact] at h
      exact ⟨_, _, h, rfl, by decide⟩
  | bool value =>
      cases value <;>
        (simp only [Spells, compact] at h
         exact ⟨_, _, h, rfl, by decide⟩)
  | text s =>
      simp only [Spells, compact, quoted] at h
      exact ⟨_, _, h, rfl, by decide⟩
  | int n =>
      simp only [Spells, compact] at h
      exact h ▸ exists_cons_ofInt n
  | real m e =>
      simp only [Spells, compact] at h
      obtain ⟨first, more, leads, visible, ne⟩ := exists_cons_ofInt m
      rw [leads] at h
      exact ⟨first, _, h, visible, ne⟩
  | array items =>
      cases items with
      | nil =>
          rw [Spells] at h
          obtain ⟨_, -, h⟩ := h
          exact ⟨_, _, h, rfl, by decide⟩
      | cons first rest =>
          rw [Spells] at h
          obtain ⟨_, _, _, -, -, -, h⟩ := h
          exact ⟨_, _, h, rfl, by decide⟩
  | object members =>
      cases members with
      | nil =>
          rw [Spells] at h
          obtain ⟨_, -, h⟩ := h
          exact ⟨_, _, h, rfl, by decide⟩
      | cons first rest =>
          rw [Spells] at h
          obtain ⟨_, _, _, _, _, -, -, -, -, -, h⟩ := h
          exact ⟨_, _, h, rfl, by decide⟩

theorem read_of_isPlain {j : Json} (plain : j.isPlain = true) (blank : IsGap gap) {cs : List Char}
    (spelled : Spells j cs) (stop : Ends tail) {fuel : Nat} (enough : 2 * cs.length ≤ fuel)
    : read fuel (gap ++ (cs ++ tail)) = (j.node, tail) := by
  obtain ⟨first, more, starts, -⟩ := exists_cons_of_spells spelled
  rw [starts, List.length_cons] at enough
  obtain ⟨fuel, rfl⟩ : ∃ less, fuel = less + 1 := ⟨fuel - 1, by omega⟩
  exact read_plain plain blank spelled stop fuel

theorem Ends.of_spellsItems {items : List Json} {more : List Char} (h : SpellsItems items more)
    (tail : List Char)
    : Ends (more ++ ']' :: tail) := by
  cases items with
  | nil =>
      rw [SpellsItems] at h
      exact Ends.append h (.cons (by decide))
  | cons item rest =>
      rw [SpellsItems] at h
      obtain ⟨after, _, _, _, blank, -, -, -, rfl⟩ := h
      rw [List.append_assoc]
      exact Ends.append blank (.cons (by decide))

theorem Ends.of_spellsMembers {members : List (String × Json)} {more : List Char}
    (h : SpellsMembers members more) (tail : List Char)
    : Ends (more ++ '}' :: tail) := by
  cases members with
  | nil =>
      rw [SpellsMembers] at h
      exact Ends.append h (.cons (by decide))
  | cons member rest =>
      rw [SpellsMembers] at h
      obtain ⟨after, _, _, _, _, _, blank, -, -, -, -, -, rfl⟩ := h
      rw [List.append_assoc]
      exact Ends.append blank (.cons (by decide))

-- What a bracket, an item or a member leads to, given how the text goes on.
section Steps

variable {fuel : Nat} {cs inner more : List Char} {item : Node} {name : String}

theorem read_array_nil (starts : skipSpace cs = '[' :: inner)
    (close : skipSpace inner = ']' :: tail)
    : read (fuel + 1) cs = (.array [] none, tail) := by
  simp only [read, starts, close]

theorem read_array (starts : skipSpace cs = '[' :: inner) (first : skipSpace inner = c :: more)
    (ne : c ≠ ']')
    : read (fuel + 1) cs
      = (.array (readItems fuel (c :: more)).1 (readItems fuel (c :: more)).2.1,
          (readItems fuel (c :: more)).2.2) := by
  simp [read, starts, first, ne]

theorem read_object_nil (starts : skipSpace cs = '{' :: inner)
    (close : skipSpace inner = '}' :: tail)
    : read (fuel + 1) cs = (.object [] none, tail) := by
  simp only [read, starts, close]

theorem read_object (starts : skipSpace cs = '{' :: inner) (first : skipSpace inner = '"' :: more)
    : read (fuel + 1) cs
      = (.object (readMembers fuel ('"' :: more)).1 (readMembers fuel ('"' :: more)).2.1,
          (readMembers fuel ('"' :: more)).2.2) := by
  simp [read, starts, first]

theorem readItems_last (here : read fuel cs = (item, more)) (close : skipSpace more = ']' :: tail)
    : readItems (fuel + 1) cs = ([item], none, tail) := by
  simp only [readItems, here, close]

theorem readItems_next (here : read fuel cs = (item, more)) (comma : skipSpace more = ',' :: tail)
    : readItems (fuel + 1) cs
      = (item :: (readItems fuel tail).1, (readItems fuel tail).2.1,
          (readItems fuel tail).2.2) := by
  simp only [readItems, here, comma]

theorem readMembers_last (quote : skipSpace cs = quoted name ++ rest)
    (colon : skipSpace rest = ':' :: inner) (here : read fuel inner = (item, more))
    (close : skipSpace more = '}' :: tail)
    : readMembers (fuel + 1) cs = ([(.text (.ok name), item)], none, tail) := by
  simp only [readMembers, quote, quoted, List.cons_append, List.append_assoc, List.nil_append,
    readText_quoted, colon, here, close]

theorem readMembers_next (quote : skipSpace cs = quoted name ++ rest)
    (colon : skipSpace rest = ':' :: inner) (here : read fuel inner = (item, more))
    (comma : skipSpace more = ',' :: tail)
    : readMembers (fuel + 1) cs
      = ((.text (.ok name), item) :: (readMembers fuel tail).1, (readMembers fuel tail).2.1,
          (readMembers fuel tail).2.2) := by
  simp only [readMembers, quote, quoted, List.cons_append, List.append_assoc, List.nil_append,
    readText_quoted, colon, here, comma]

end Steps

mutual

/-- A value is read back from each text that spells it, after any blanks. -/
theorem read_of_spells : (j : Json) → {gap cs tail : List Char} → IsGap gap → Spells j cs
    → Ends tail → {fuel : Nat} → 2 * cs.length ≤ fuel
    → read fuel (gap ++ (cs ++ tail)) = (j.node, tail)
  | .array [], gap, cs, tail, blank, spelled, stop, fuel, enough => by
      rw [Spells] at spelled
      obtain ⟨inner, blank', rfl⟩ := spelled
      simp only [List.length_append, List.length_cons] at enough
      obtain ⟨fuel, rfl⟩ : ∃ less, fuel = less + 1 := ⟨fuel - 1, by omega⟩
      simp only [List.cons_append, List.append_assoc, List.nil_append]
      rw [read_array_nil (skipSpace_gap blank rfl) (skipSpace_gap blank' rfl), node, nodes]
  | .array (first :: rest), gap, cs, tail, blank, spelled, stop, fuel, enough => by
      rw [Spells] at spelled
      obtain ⟨before, value, more, blank', spelled, following, rfl⟩ := spelled
      simp only [List.length_append, List.length_cons] at enough
      -- The bracket takes a step of the fuel, and the first item that follows it another.
      obtain ⟨fuel, rfl⟩ : ∃ less, fuel = less + 1 + 1 := ⟨fuel - 2, by omega⟩
      have here := read_of_spells first isGap_nil spelled (Ends.of_spellsItems following tail)
        (show 2 * value.length ≤ fuel by omega)
      have items := readItems_of_spells rest following (by omega) here
      obtain ⟨c, others, rfl, visible, ne⟩ := exists_cons_of_spells spelled
      simp only [List.cons_append, List.append_assoc, List.nil_append] at items ⊢
      rw [read_array (skipSpace_gap blank rfl) (skipSpace_gap blank' visible) ne, items, node,
        nodes]
  | .object [], gap, cs, tail, blank, spelled, stop, fuel, enough => by
      rw [Spells] at spelled
      obtain ⟨inner, blank', rfl⟩ := spelled
      simp only [List.length_append, List.length_cons] at enough
      obtain ⟨fuel, rfl⟩ : ∃ less, fuel = less + 1 := ⟨fuel - 1, by omega⟩
      simp only [List.cons_append, List.append_assoc, List.nil_append]
      rw [read_object_nil (skipSpace_gap blank rfl) (skipSpace_gap blank' rfl), node, memberNodes]
  | .object ((name, first) :: rest), gap, cs, tail, blank, spelled, stop, fuel, enough => by
      rw [Spells] at spelled
      obtain ⟨before, colon, inner, value, more, blank', blank'', gap', spelled, following, rfl⟩ :=
        spelled
      simp only [List.length_append, List.length_cons] at enough
      obtain ⟨fuel, rfl⟩ : ∃ less, fuel = less + 1 + 1 := ⟨fuel - 2, by omega⟩
      have here := read_of_spells first gap' spelled (Ends.of_spellsMembers following tail)
        (show 2 * value.length ≤ fuel by omega)
      have members := readMembers_of_spells rest following (by omega)
        (skipSpace_quoted isGap_nil name) (skipSpace_gap blank'' rfl) here
      simp only [quoted, List.cons_append, List.append_assoc, List.nil_append] at members ⊢
      rw [read_object (skipSpace_gap blank rfl) (skipSpace_gap blank' rfl), members, node,
        memberNodes]
  | .null, _, _, _, blank, spelled, stop, _, enough =>
      read_of_isPlain rfl blank spelled stop enough
  | .bool _, _, _, _, blank, spelled, stop, _, enough =>
      read_of_isPlain rfl blank spelled stop enough
  | .int _, _, _, _, blank, spelled, stop, _, enough =>
      read_of_isPlain rfl blank spelled stop enough
  | .real _ _, _, _, _, blank, spelled, stop, _, enough =>
      read_of_isPlain rfl blank spelled stop enough
  | .text _, _, _, _, blank, spelled, stop, _, enough =>
      read_of_isPlain rfl blank spelled stop enough

/-- The items after the first are read back behind it. -/
theorem readItems_of_spells : (rest : List Json) → {cs more tail : List Char} → {item : Node}
    → SpellsItems rest more → {fuel : Nat} → 2 * more.length ≤ fuel
    → read fuel cs = (item, more ++ ']' :: tail)
    → readItems (fuel + 1) cs = (item :: nodes rest, none, tail)
  | [], cs, more, tail, item, spelled, fuel, enough, here => by
      rw [SpellsItems] at spelled
      rw [readItems_last here (skipSpace_gap spelled rfl), nodes]
  | second :: rest, cs, more, tail, item, spelled, fuel, enough, here => by
      rw [SpellsItems] at spelled
      obtain ⟨after, before, value, others, blank, gap, spelled, following, rfl⟩ := spelled
      simp only [List.length_append, List.length_cons] at enough
      obtain ⟨fuel, rfl⟩ : ∃ less, fuel = less + 1 := ⟨fuel - 1, by omega⟩
      have comma : skipSpace (after ++ ',' :: (before ++ value ++ others) ++ ']' :: tail)
          = ',' :: (before ++ (value ++ (others ++ ']' :: tail))) := by
        simp only [List.append_assoc, List.cons_append]
        exact skipSpace_gap blank rfl
      have next := read_of_spells second gap spelled (Ends.of_spellsItems following tail)
        (show 2 * value.length ≤ fuel by omega)
      rw [readItems_next here comma, readItems_of_spells rest following (by omega) next, nodes]

/-- The members after the first are read back behind it. -/
theorem readMembers_of_spells : (rest : List (String × Json))
    → {cs after inner more tail : List Char} → {item : Node} → {name : String}
    → SpellsMembers rest more → {fuel : Nat} → 2 * more.length ≤ fuel
    → skipSpace cs = quoted name ++ after → skipSpace after = ':' :: inner
    → read fuel inner = (item, more ++ '}' :: tail)
    → readMembers (fuel + 1) cs = ((.text (.ok name), item) :: memberNodes rest, none, tail)
  | [], cs, after, inner, more, tail, item, name, spelled, fuel, enough, quote, mark, here => by
      rw [SpellsMembers] at spelled
      rw [readMembers_last quote mark here (skipSpace_gap spelled rfl), memberNodes]
  | (next, second) :: rest, cs, after, inner, more, tail, item, name, spelled, fuel, enough, quote,
      mark, here => by
      rw [SpellsMembers] at spelled
      obtain ⟨after', before, colon, gap, value, others, blank, blank', blank'', gap', spelled,
        following, rfl⟩ := spelled
      simp only [List.length_append, List.length_cons] at enough
      obtain ⟨fuel, rfl⟩ : ∃ less, fuel = less + 1 := ⟨fuel - 1, by omega⟩
      have here' := read_of_spells second gap' spelled (Ends.of_spellsMembers following tail)
        (show 2 * value.length ≤ fuel by omega)
      have members := readMembers_of_spells rest following (by omega)
        (skipSpace_quoted blank' next) (skipSpace_gap blank'' rfl) here'
      have comma : skipSpace (after' ++ ',' :: (before ++ quoted next ++ colon ++ ':' ::
          (gap ++ value ++ others)) ++ '}' :: tail)
          = ',' :: (before ++ (quoted next ++ (colon ++ ':' ::
            (gap ++ (value ++ (others ++ '}' :: tail)))))) := by
        simp only [List.append_assoc, List.cons_append]
        exact skipSpace_gap blank rfl
      rw [readMembers_next quote mark here comma, members, memberNodes]

end

/-- A text that spells a value is read as it, and the blanks after it are left. -/
theorem ofText_of_spells {j : Json} {cs : List Char} (blank : IsGap gap) (spelled : Spells j cs)
    (blank' : IsGap tail)
    : ofText (gap ++ (cs ++ tail)) = (j.node, tail) := by
  have stop : Ends tail := List.append_nil tail ▸ Ends.append blank' nofun
  refine read_of_spells j blank spelled stop ?_
  rw [List.length_append, List.length_append]
  omega

end Node

/-- Whether a text is one of those of a value, with any blanks before and after it. -/
def Spelled (j : Json) (s : String) : Prop :=
  ∃ before cs after, IsGap before ∧ Spells j cs ∧ IsGap after
    ∧ s = String.ofList (before ++ (cs ++ after))

theorem Spelled.of_spells {j : Json} {cs : List Char} (h : Spells j cs)
    : Spelled j (String.ofList cs) :=
  ⟨[], cs, [], isGap_nil, h, isGap_nil, by rw [List.append_nil, List.nil_append]⟩

theorem spelled_line (j : Json) : Spelled j j.line :=
  .of_spells (spells_compact j)

theorem spelled_pretty (j : Json) : Spelled j j.pretty :=
  .of_spells (spells_prettyAt 0 j)

end AdoptionRecords.Json
