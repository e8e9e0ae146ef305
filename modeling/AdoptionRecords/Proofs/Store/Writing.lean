import AdoptionRecords.Proofs.Store.Refusing

/-! Writing live rows: drawing a key, creating a row under it, and changing rows in place. Keys are
drawn in ascending order, and rows are written only once all checks have passed.
-/

namespace AdoptionRecords

open Calendar Text

/-- The role that a content names is a known one, if it is the content of a user. -/
def Content.HasKnownRole : (kind : Kind) → Content kind → Prop
  | .user, content => content.roleName.all (fun name => (Role.read? name).isSome) = true
  | _, _ => True

/-- A live row is permitted by the rules of its table. -/
structure LiveRow.Permitted {kind : Kind} (row : LiveRow kind) : Prop where
  filled : (LiveRow.columns kind).gap? row.cells = none
  hasRole : Content.HasKnownRole kind row.content

namespace Store

/-- The store after a key of a live table was drawn. -/
def drawn (s : Store) (kind : Kind) : Store :=
  s.setSequence (.live kind) (s.sequences.live kind + 1)

/-- The store after a number of the log was drawn. -/
def numbered (s : Store) : Store :=
  s.setSequence .log (s.sequences.log + 1)

/-- After a key was drawn, its table gives the next key and the other tables what they gave. -/
theorem sequences_drawn_live (s : Store) (kind other : Kind)
    : (s.drawn kind).sequences.live other
      = if other = kind then s.sequences.live kind + 1 else s.sequences.live other :=
  rfl

/-- Drawing a key does not lower any sequence. -/
theorem sequences_le_drawn (s : Store) (kind : Kind) : s.sequences ≤ (s.drawn kind).sequences := by
  constructor
  · intro other
    rw [sequences_drawn_live]
    split
    · subst other
      omega
    · exact Int.le_refl _
  · exact Int.le_refl _

theorem sequences_le_numbered (s : Store) : s.sequences ≤ s.numbered.sequences := by
  refine ⟨fun _ => Int.le_refl _, ?_⟩
  show s.sequences.log ≤ s.sequences.log + 1
  omega

section Statements

open Work

variable {s after : Store} {fault : Fault} {kind : Kind}

/-- Drawing a key yields the next key of its table, unless the greatest was given before. -/
@[simp]
theorem yields_drawLive_iff {key : Int}
    : s.Yields (drawLive kind) key after
      ↔ s.sequences.live kind ≤ greatestLiveKey ∧ key = s.sequences.live kind
        ∧ after = s.drawn kind := by
  simp [drawLive, drawn, and_assoc, and_comm, -bind_pure_comp]

@[simp]
theorem stops_drawLive_iff
    : s.Stops (drawLive kind) fault after
      ↔ greatestLiveKey < s.sequences.live kind
        ∧ fault = .database
            (.sequenceExhausted s!"{kind.liveTable}_{kind.keyColumn}_seq" greatestLiveKey)
        ∧ after = s := by
  simp [drawLive, and_assoc, -bind_pure_comp]

/-- Drawing a number yields the next number of the log, unless the greatest was given before. -/
@[simp]
theorem yields_drawLog_iff {number : Int}
    : s.Yields drawLog number after
      ↔ s.sequences.log ≤ greatestLogNumber ∧ number = s.sequences.log
        ∧ after = s.numbered := by
  simp [drawLog, numbered, and_assoc, and_comm, -bind_pure_comp]

@[simp]
theorem stops_drawLog_iff
    : s.Stops drawLog fault after
      ↔ greatestLogNumber < s.sequences.log
        ∧ fault = .database
            (.sequenceExhausted s!"{TableId.log.name}_log_id_seq" greatestLogNumber)
        ∧ after = s := by
  simp [drawLog, and_assoc, -bind_pure_comp]

/-- A content passes if its role is a known one. -/
@[simp]
theorem yields_checkContent_iff {content : Content kind} {value : Unit}
    : s.Yields (checkContent kind content) value after
      ↔ Content.HasKnownRole kind content ∧ after = s := by
  cases kind <;> simp [checkContent, Content.HasKnownRole]

/-- A live row passes if the rules of its table permit it. -/
@[simp]
theorem yields_checkLive_iff {row : LiveRow kind} {value : Unit}
    : s.Yields (checkLive kind row) value after ↔ row.Permitted ∧ after = s := by
  simp only [checkLive, yields_bind_iff, yields_checkFilled_iff, yields_checkContent_iff]
  constructor
  · intro h
    obtain ⟨_, _, ⟨filled, rfl⟩, hasRole, rfl⟩ := h
    exact ⟨⟨filled, hasRole⟩, rfl⟩
  · intro h
    obtain ⟨⟨filled, hasRole⟩, rfl⟩ := h
    exact ⟨(), _, ⟨filled, rfl⟩, hasRole, rfl⟩

/-- A row is created under the next key of its table if the store can hold it, the rules of the
table permit it and the key is free; nothing else is written.
-/
theorem yields_createLive_iff {content : Content kind} {key : Int}
    : s.Yields (createLive kind content) key after
      ↔ ∃ rows,
          s.tables.live kind = some rows
          ∧ (Content.texts kind content).any hasNul = false
          ∧ (Content.dates kind content).all Date.isStorable = true
          ∧ s.sequences.live kind ≤ greatestLiveKey
          ∧ (LiveRow.fresh content).Permitted
          ∧ rows.contains key = false
          ∧ key = s.sequences.live kind
          ∧ after = { s.drawn kind with
              tables := s.tables.setLive kind (rows.insert key (LiveRow.fresh content)) } := by
  simp only [createLive, yields_bind_iff, yields_liveTable_iff, yields_checkTexts_iff,
    yields_checkDates_iff, yields_drawLive_iff, yields_checkLive_iff, yields_checkFree_iff,
    yields_putLive_iff, yields_pure_iff]
  constructor
  · intro h
    obtain ⟨rows, _, ⟨present, rfl⟩, _, _, ⟨texts, rfl⟩, _, _, ⟨dates, rfl⟩, drawnKey, _, ⟨bound,
      rfl, rfl⟩, _, _, ⟨permitted, rfl⟩, _, _, ⟨free, rfl⟩, _, _, rfl, rfl, rfl⟩ := h
    exact ⟨rows, present, texts, dates, bound, permitted, free, rfl, rfl⟩
  · intro h
    obtain ⟨rows, present, texts, dates, bound, permitted, free, rfl, rfl⟩ := h
    exact ⟨rows, s, ⟨present, rfl⟩, (), s, ⟨texts, rfl⟩, (), s, ⟨dates, rfl⟩, _, s.drawn kind,
      ⟨bound, rfl, rfl⟩, (), _, ⟨permitted, rfl⟩, (), _, ⟨free, rfl⟩, (), _, rfl, rfl, rfl⟩

/-- Rows pass one after another if each that is to be changed may be changed, by induction on
them.
-/
theorem yields_forM_checkLive_iff {test : LiveRow kind → Bool}
    {change : LiveRow kind → LiveRow kind} {entries : List (Int × LiveRow kind)} {value : PUnit}
    : s.Yields
        (entries.forM fun (_, row) => if test row then checkLive kind (change row) else pure ())
        value after
      ↔ (∀ entry ∈ entries, test entry.2 = true → (change entry.2).Permitted) ∧ after = s := by
  induction entries generalizing s with
  | nil => simp
  | cons entry rest ih =>
      simp only [List.forM_eq_forM] at ih
      simp only [List.forM_eq_forM, List.forM_cons, yields_bind_iff, yields_ite_iff,
        yields_checkLive_iff, yields_pure_iff, ih, List.forall_mem_cons]
      constructor
      · intro h
        rcases h with ⟨_, _, ⟨changes, permitted, rfl⟩ | ⟨keeps, -, rfl⟩, others, rfl⟩
        · exact ⟨⟨fun _ => permitted, others⟩, rfl⟩
        · exact ⟨⟨fun changes => (keeps changes).elim, others⟩, rfl⟩
      · intro h
        obtain ⟨⟨permitted, others⟩, rfl⟩ := h
        by_cases changes : test entry.2 = true
        · exact ⟨(), after, .inl ⟨changes, permitted changes, rfl⟩, others, rfl⟩
        · exact ⟨(), after, .inr ⟨changes, trivial, rfl⟩, others, rfl⟩

/-- Rows are changed in place if the rules of their table permit all changed rows. -/
theorem yields_updateLive_iff {test : LiveRow kind → Bool}
    {change : LiveRow kind → LiveRow kind} {changed : Nat}
    : s.Yields (updateLive kind test change) changed after
      ↔ ∃ rows,
          s.tables.live kind = some rows
          ∧ (∀ entry ∈ rows.entries, test entry.2 = true → (change entry.2).Permitted)
          ∧ changed = rows.count (fun _ row => test row)
          ∧ after = { s with
              tables := s.tables.setLive kind
                (rows.map fun _ row => if test row then change row else row) } := by
  simp only [updateLive, yields_bind_iff, yields_liveTable_iff, yields_forM_checkLive_iff,
    yields_putLive_iff, yields_pure_iff]
  constructor
  · intro h
    obtain ⟨rows, _, ⟨present, rfl⟩, _, _, ⟨permitted, rfl⟩, _, _, rfl, rfl, rfl⟩ := h
    exact ⟨rows, present, permitted, rfl, rfl⟩
  · intro h
    obtain ⟨rows, present, permitted, rfl, rfl⟩ := h
    exact ⟨rows, s, ⟨present, rfl⟩, (), s, ⟨permitted, rfl⟩, (), _, rfl, rfl, rfl⟩

end Statements

end Store

namespace Work

/-- Drawing a key writes nothing. -/
theorem writesNothing_drawLive (kind : Kind) : WritesNothing (drawLive kind) where
  stops h := by
    obtain ⟨-, -, rfl⟩ := Store.stops_drawLive_iff.mp h
    exact .refl _
  yields h := by
    obtain ⟨-, -, rfl⟩ := Store.yields_drawLive_iff.mp h
    exact ⟨rfl, Store.sequences_le_drawn ..⟩

/-- Drawing a number writes nothing. -/
theorem writesNothing_drawLog : WritesNothing drawLog where
  stops h := by
    obtain ⟨-, -, rfl⟩ := Store.stops_drawLog_iff.mp h
    exact .refl _
  yields h := by
    obtain ⟨-, -, rfl⟩ := Store.yields_drawLog_iff.mp h
    exact ⟨rfl, Store.sequences_le_numbered ..⟩

/-- A row is created last of all: a creation that is refused has drawn a key at most. -/
theorem writesLast_createLive (kind : Kind) (content : Content kind)
    : WritesLast (createLive kind content) :=
  .bind (writesNothing_liveTable kind) fun rows =>
    .bind (writesNothing_checkTexts _) fun _ =>
    .bind (writesNothing_checkDates _) fun _ =>
    .bind (writesNothing_drawLive kind) fun key =>
    .bind (writesNothing_checkLive _) fun _ =>
    .bind (writesNothing_checkFree ..) fun _ =>
    .of_not_stops (by simp [-bind_pure_comp])

/-- Looking whether rows may be changed writes nothing, by induction on them. -/
theorem writesNothing_forM_checkLive {kind : Kind} (test : LiveRow kind → Bool)
    (change : LiveRow kind → LiveRow kind) (entries : List (Int × LiveRow kind))
    : WritesNothing
        (entries.forM fun (_, row) =>
          if test row then checkLive kind (change row) else pure ()) := by
  induction entries with
  | nil => exact .pure _
  | cons entry rest ih =>
      exact .bind (.ite (writesNothing_checkLive _) (.pure _)) fun _ => ih

/-- Rows are changed in place only once all of them may be. -/
theorem writesLast_updateLive {kind : Kind} (test : LiveRow kind → Bool)
    (change : LiveRow kind → LiveRow kind)
    : WritesLast (updateLive kind test change) :=
  .bind (writesNothing_liveTable kind) fun rows =>
    .bind (writesNothing_forM_checkLive test change rows.entries) fun _ =>
    .of_not_stops (by simp [-bind_pure_comp])

end Work

end AdoptionRecords
