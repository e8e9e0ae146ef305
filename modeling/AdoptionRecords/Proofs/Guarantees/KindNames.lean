import AdoptionRecords.Fault
import Mathlib.Data.List.Forall2
import Mathlib.Data.List.TakeWhile

/-! The texts that name a kind. Between blanks stands one of the kind's names, in letters of either
case and with hyphens or underscores, and behind it any number of marks of an archive table. All
other texts are refused, and quoted as they were given.
-/

namespace AdoptionRecords

-----------------------------------------------------------------------------------------
-- Blanks at the ends
-----------------------------------------------------------------------------------------

namespace Text

variable {cs core : List Char}

/-- Whether a text is another without the blanks at its ends. -/
structure Trims (cs core : List Char) : Prop where
  between : ∃ before after, cs = before ++ core ++ after
    ∧ (∀ c ∈ before, isBlank c = true) ∧ ∀ c ∈ after, isBlank c = true
  first : ∀ c ∈ core.head?, isBlank c = false
  last : ∀ c ∈ core.getLast?, isBlank c = false

/-- What follows blanks is left when they are dropped, unless it starts with a blank itself. -/
theorem dropWhile_blanks {blanks : List Char} (blank : ∀ c ∈ blanks, isBlank c = true)
    (first : ∀ c ∈ core.head?, isBlank c = false)
    : (blanks ++ core).dropWhile isBlank = core := by
  rw [List.dropWhile_append_of_pos blank]
  cases core with
  | nil => rfl
  | cons c rest =>
      apply List.dropWhile_cons_of_neg
      rw [first c rfl]
      exact Bool.false_ne_true

theorem head?_dropWhile_blank (cs : List Char)
    : ∀ c ∈ (cs.dropWhile isBlank).head?, isBlank c = false := by
  intro c head
  have first := List.head?_dropWhile_not isBlank cs
  rw [Option.mem_def.mp head] at first
  exact first

/-- Trimming leaves what stands between the blanks at the ends. -/
theorem Trims.eq_trim (h : Trims cs core) : core = trim cs := by
  obtain ⟨⟨before, after, rfl, blank, blank'⟩, first, last⟩ := h
  by_cases none : core = []
  · subst none
    have all : ∀ c ∈ before ++ after, isBlank c = true :=
      List.forall_mem_append.mpr ⟨blank, blank'⟩
    rw [List.append_nil, trim, trimStart, List.dropWhile_eq_nil_iff.mpr all]
    rfl
  · have first' : ∀ c ∈ (core ++ after).head?, isBlank c = false := by
      rwa [List.head?_append_of_ne_nil _ none]
    have last' : ∀ c ∈ core.reverse.head?, isBlank c = false := by
      rwa [List.head?_reverse]
    have blank'' : ∀ c ∈ after.reverse, isBlank c = true := fun c member =>
      blank' c (List.mem_reverse.mp member)
    rw [List.append_assoc, trim, trimStart, dropWhile_blanks blank first', trimEnd,
      List.reverse_append, dropWhile_blanks blank'' last', List.reverse_reverse]

/-- Every text can be trimmed. -/
theorem trims_trim (cs : List Char) : Trims cs (trim cs) := by
  have split := List.takeWhile_append_dropWhile (p := isBlank) (l := (trimStart cs).reverse)
  have front := List.takeWhile_append_dropWhile (p := isBlank) (l := cs)
  have back : trimStart cs = trim cs ++ ((trimStart cs).reverse.takeWhile isBlank).reverse := by
    rw [trim, trimEnd, ← List.reverse_append, split, List.reverse_reverse]
  constructor
  case between =>
    refine ⟨cs.takeWhile isBlank, ((trimStart cs).reverse.takeWhile isBlank).reverse, ?_, ?_, ?_⟩
    · rw [List.append_assoc, ← back]
      exact front.symm
    · exact fun c member => List.mem_takeWhile_imp member
    · exact fun c member => List.mem_takeWhile_imp (List.mem_reverse.mp member)
  case first =>
    -- The first character is that of the text without the blanks before it.
    intro c member
    apply head?_dropWhile_blank cs c
    have same := congrArg List.head? back
    rw [List.head?_append, Option.mem_def.mp member] at same
    exact same
  case last =>
    intro c member
    rw [trim, trimEnd, List.getLast?_reverse] at member
    exact head?_dropWhile_blank _ c member

end Text

-----------------------------------------------------------------------------------------
-- Names in plain spelling
-----------------------------------------------------------------------------------------

namespace Kind

variable {kind other : Kind} {cs : List Char}

/-- What the name of an archive table has behind that of the live table. -/
def archiveMark : List Char :=
  "_archive".toList

/-- What each kind is called in plain spelling: by its own name, by that of its live table, and by
others.
-/
def spellings : Kind → List String
  | user => ["user", "users"]
  | adopter => ["adopter", "tbl_adopter", "adopters"]
  | petOwner => ["pet_owner", "tbl_pet_owner", "owner", "pet_owners"]
  | pet => ["pet", "tbl_pet", "pets"]
  | adoptionRequest => ["adoption_request", "tbl_adoption_request", "request", "requests"]
  | adoption => ["adoption", "tbl_adoption", "adoptions"]

/-- The texts that name a kind: what it is called, and what names it with a mark behind. -/
inductive Named (kind : Kind) : List Char → Prop
  | name {name : String} (called : name ∈ kind.spellings) : Named kind name.toList
  | archived {cs : List Char} (named : Named kind cs) : Named kind (cs ++ archiveMark)

/-- A kind is looked up by what it is called. -/
theorem mem_names_iff {name : String} : name ∈ kind.names ↔ name ∈ kind.spellings := by
  cases kind <;> simp [names, Kind.name, liveTable, aliases, spellings]

/-- A mark at the end of a name does not count. -/
theorem withoutArchiveMarks_append (cs : List Char)
    : withoutArchiveMarks (cs ++ archiveMark) = withoutArchiveMarks cs := by
  unfold withoutArchiveMarks
  rw [List.reverse_append]
  rfl

/-- No name ends with a mark. -/
theorem withoutArchiveMarks_name {name : String} (called : name ∈ kind.spellings)
    : withoutArchiveMarks name.toList = name.toList := by
  revert name
  cases kind <;> decide

/-- A text names a kind if it does so without its marks, by induction on these from the last. -/
theorem named_of_dropArchiveMarks (h : kind.Named (dropArchiveMarks cs).reverse)
    : kind.Named cs.reverse := by
  fun_induction dropArchiveMarks cs with
  | case1 rest ih =>
      have marked : (archiveMark.reverse ++ rest).reverse = rest.reverse ++ archiveMark := by
        rw [List.reverse_append, List.reverse_reverse]
      have named := Named.archived (ih h)
      rw [← marked] at named
      exact named
  | case2 => exact h

/-- A text names a kind exactly if the kind is called so without the marks. -/
theorem named_iff : kind.Named cs ↔ String.ofList (withoutArchiveMarks cs) ∈ kind.spellings := by
  constructor
  · intro named
    induction named with
    | name called =>
        rw [withoutArchiveMarks_name called, String.ofList_toList]
        exact called
    | archived _ ih =>
        rw [withoutArchiveMarks_append]
        exact ih
  · intro called
    have plain := Named.name called
    rw [String.toList_ofList, withoutArchiveMarks] at plain
    rw [← List.reverse_reverse cs]
    exact named_of_dropArchiveMarks plain

/-- No two kinds are called the same. -/
theorem eq_of_mem_spellings {name : String} (called : name ∈ kind.spellings)
    (called' : name ∈ other.spellings)
    : kind = other := by
  revert name
  cases kind <;> cases other <;> decide

/-- No text names two kinds. -/
theorem Named.unique (named : kind.Named cs) (named' : other.Named cs) : kind = other :=
  eq_of_mem_spellings (named_iff.mp named) (named_iff.mp named')

/-- A text is read as the kind that it names in plain spelling. -/
theorem read?_eq_some_iff {s : String}
    : read? s = some kind ↔ kind.Named (plainSpelling s.toList) := by
  rw [named_iff, read?]
  generalize String.ofList (withoutArchiveMarks (plainSpelling s.toList)) = plain
  have called {k : Kind} (named : k.names.contains plain = true) : plain ∈ k.spellings :=
    mem_names_iff.mp (List.contains_iff_mem.mp named)
  constructor
  · intro found
    have named := List.find?_some found
    exact called named
  · intro member
    have all : kind ∈ all := by cases kind <;> decide
    have named : kind.names.contains plain = true :=
      List.contains_iff_mem.mpr (mem_names_iff.mpr member)
    cases found : Kind.all.find? fun k => k.names.contains plain with
    | none => exact absurd named (List.find?_eq_none.mp found kind all)
    | some first =>
        have named' := List.find?_some found
        rw [eq_of_mem_spellings (called named') member]

theorem read_eq_ok_iff {s : String} : read s = .ok kind ↔ read? s = some kind := by
  unfold read
  cases read? s with
  | none => exact ⟨nofun, nofun⟩
  | some first => simp

theorem read_eq_error_iff {s : String} {fault : Fault}
    : read s = .error fault ↔ fault = .unknownKind s ∧ read? s = none := by
  unfold read
  cases read? s with
  | none => simp [eq_comm]
  | some first => simp

-----------------------------------------------------------------------------------------
-- Other spellings
-----------------------------------------------------------------------------------------

/-- A character as names have it: a hyphen becomes an underscore. -/
def underscored (c : Char) : Char :=
  if c = '-' then '_' else c

/-- Capital letters are lowered and hyphens become underscores, in either order. -/
theorem plainSpelling_eq (cs : List Char)
    : plainSpelling cs = ((Text.trim cs).map Char.toLower).map underscored := by
  unfold plainSpelling
  rw [List.map_map]
  apply List.map_congr_left
  intro c _
  by_cases hyphen : c = '-'
  · rw [hyphen]
    rfl
  · have lower : c.toLower ≠ '-' := by
      intro same
      unfold Char.toLower at same
      split at same
      · next capital =>
          have value := congrArg (fun d => d.val.toNat) same
          have bounds : 65 ≤ c.val.toNat ∧ c.val.toNat ≤ 90 := capital
          have shift : (c.val + ('a'.val - 'A'.val)).toNat = (c.val.toNat + 32) % 4294967296 :=
            UInt32.toNat_add ..
          simp only [shift] at value
          have hyphen : '-'.val.toNat = 45 := rfl
          omega
      · exact hyphen same
    simp only [if_neg hyphen, Function.comp, underscored, if_neg lower]

/-- Whether one character may be written for another of a name: the same, its capital, or a hyphen for
an underscore.
-/
def Writes (c d : Char) : Prop :=
  c = d ∨ c = d.toUpper ∨ c = '-' ∧ d = '_'

instance (c d : Char) : Decidable (Writes c d) :=
  inferInstanceAs (Decidable (_ ∨ _ ∨ _))

/-- The characters of names. -/
def nameCharacters : List Char :=
  "abcdefghijklmnopqrstuvwxyz_".toList

theorem Named.mem_nameCharacters (named : kind.Named cs) : ∀ c ∈ cs, c ∈ nameCharacters := by
  rw [← List.subset_def]
  induction named with
  | name called =>
      rename_i name
      revert name
      cases kind <;> decide
  | archived _ ih =>
      have mark : archiveMark ⊆ nameCharacters := by decide
      exact List.append_subset.mpr ⟨ih, mark⟩

/-- A character of a name is found again in each way to write it, and none of these is a blank. -/
theorem Writes.plain {c d : Char} (writes : Writes c d) (plain : d ∈ nameCharacters)
    : underscored c.toLower = d ∧ Text.isBlank c = false := by
  have same : nameCharacters.all fun d => underscored d.toLower == d && !Text.isBlank d := by
    decide
  have capital : nameCharacters.all fun d =>
      underscored d.toUpper.toLower == d && !Text.isBlank d.toUpper := by
    decide
  simp only [List.all_eq_true, Bool.and_eq_true, beq_iff_eq, Bool.not_eq_true'] at same capital
  rcases writes with rfl | rfl | ⟨rfl, rfl⟩
  · exact same _ plain
  · exact capital _ plain
  · decide

/-- The characters of a name are found again in each way to write it, by induction on them. -/
theorem map_of_writes {plain : List Char} (written : List.Forall₂ Writes cs plain)
    (characters : ∀ d ∈ plain, d ∈ nameCharacters)
    : (cs.map Char.toLower).map underscored = plain ∧ ∀ c ∈ cs, Text.isBlank c = false := by
  induction written with
  | nil => exact ⟨rfl, nofun⟩
  | @cons c d cs plain writes _ ih =>
      obtain ⟨own, characters⟩ := List.forall_mem_cons.mp characters
      obtain ⟨same, visible⟩ := writes.plain own
      obtain ⟨rest, visible'⟩ := ih characters
      constructor
      · rw [List.map_cons, List.map_cons, same, rest]
      · exact List.forall_mem_cons.mpr ⟨visible, visible'⟩

/-- A name that is written in some way between blanks is found again. -/
theorem Named.plainSpelling_padded {plain before after : List Char} (named : kind.Named plain)
    (written : List.Forall₂ Writes cs plain) (blank : ∀ c ∈ before, Text.isBlank c = true)
    (blank' : ∀ c ∈ after, Text.isBlank c = true)
    : plainSpelling (before ++ cs ++ after) = plain := by
  obtain ⟨same, visible⟩ := map_of_writes written named.mem_nameCharacters
  have trims : Text.Trims (before ++ cs ++ after) cs := by
    constructor
    case between => exact ⟨before, after, rfl, blank, blank'⟩
    case first => exact fun c member => visible c (List.mem_of_mem_head? member)
    case last => exact fun c member => visible c (List.mem_of_mem_getLast? member)
  rw [plainSpelling_eq, ← trims.eq_trim, same]

-----------------------------------------------------------------------------------------
-- All texts
-----------------------------------------------------------------------------------------

/-- Reading the name of a kind. What a text comes to without the blanks at its ends, with capital
letters lowered and hyphens made underscores, decides: the text is read as a kind exactly if this is
one of the kind's names with any number of marks of an archive table behind, which it is for one kind
at most; any other text is refused, and quoted as it was given. So the name and the two tables of each
kind are read, in whichever letters they are written between blanks.
-/
theorem read_exactly_names
    : (∀ s : String, ∃ core, Text.Trims s.toList core
        ∧ let plain := (core.map Char.toLower).map underscored
          (∀ kind, read s = .ok kind ↔ kind.Named plain)
          ∧ ∀ fault, read s = .error fault ↔ fault = .unknownKind s ∧ ∀ kind : Kind, ¬ kind.Named plain)
      ∧ (∀ (cs : List Char) (kind other : Kind), kind.Named cs → other.Named cs → kind = other)
      ∧ (∀ s : String, (Fault.unknownKind s).category = .invalidInput
          ∧ (Fault.unknownKind s).detail = "unknown entity type '" ++ s ++ "'")
      ∧ ∀ (kind : Kind), ∀ name ∈ [kind.name, kind.liveTable, kind.archiveTable],
          ∀ before cs after : List Char, List.Forall₂ Writes cs name.toList →
            (∀ c ∈ before, Text.isBlank c = true) → (∀ c ∈ after, Text.isBlank c = true) →
            read (String.ofList (before ++ cs ++ after)) = .ok kind := by
  refine ⟨?_, ?_, ?_, ?_⟩
  · intro s
    refine ⟨Text.trim s.toList, Text.trims_trim s.toList, ?_⟩
    rw [← plainSpelling_eq]
    refine ⟨fun kind => read_eq_ok_iff.trans read?_eq_some_iff, fun fault => ?_⟩
    rw [read_eq_error_iff, Option.eq_none_iff_forall_ne_some]
    simp only [ne_eq, read?_eq_some_iff]
  · intro cs kind other named named'
    exact named.unique named'
  · exact fun s => ⟨rfl, rfl⟩
  · intro kind name member before cs after written blank blank'
    have table : kind.liveTable ∈ kind.spellings :=
      mem_names_iff.mp (List.mem_cons_of_mem _ List.mem_cons_self)
    have named : kind.Named name.toList := by
      simp only [List.mem_cons, List.not_mem_nil, or_false] at member
      obtain rfl | rfl | rfl := member
      · exact .name (mem_names_iff.mp List.mem_cons_self)
      · exact .name table
      · rw [archiveTable, String.toList_append]
        exact .archived (.name table)
    rw [read_eq_ok_iff, read?_eq_some_iff, String.toList_ofList,
      named.plainSpelling_padded written blank blank']
    exact named

/-- The archive table of pets is read between blanks, with a hyphen and in mixed letters, while a blank
inside a name is not passed over.
-/
theorem read_exactly_names_of_table
    : read "\u00a0Tbl-PET_archive\n" = .ok .pet
      ∧ read "Pet owner" = .error (.unknownKind "Pet owner") := by
  obtain ⟨exactly, -, -, written⟩ := read_exactly_names
  constructor
  · exact written .pet (archiveTable .pet) (by decide) ['\u00a0'] "Tbl-PET_archive".toList ['\n']
      (by decide) (List.forall_mem_singleton.mpr rfl) (List.forall_mem_singleton.mpr rfl)
  · obtain ⟨core, -, ok, error⟩ := exactly "Pet owner"
    rw [error]
    refine ⟨rfl, fun kind named => ?_⟩
    have read : read "Pet owner" = .ok kind := (ok kind).mpr named
    revert read
    cases kind <;> decide

end Kind

end AdoptionRecords
