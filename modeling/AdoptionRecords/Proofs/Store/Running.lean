import AdoptionRecords.Store.Work

/-! Running work on the store, as two relations: work yields a value and leaves a store, or it
stops at a fault and leaves one. Each statement is characterized by what it yields, and the
statements that write the log also by where they stop.
-/

namespace AdoptionRecords

open Calendar Text

namespace Store

/-- Work is carried out to its end on a store: it yields a value and leaves a store. -/
def Yields {α : Type} (s : Store) (work : Work α) (value : α) (after : Store) : Prop :=
  s.run work = (.ok value, after)

/-- Work stops on a store: it meets a fault and leaves the store as it was then. -/
def Stops {α : Type} (s : Store) (work : Work α) (fault : Fault) (after : Store) : Prop :=
  s.run work = (.error fault, after)

section Units

variable {α : Type} {s after : Store} {work : Work α} {value : α} {fault : Fault}

theorem Yields.run_eq (h : s.Yields work value after) : s.run work = (.ok value, after) :=
  h

theorem Stops.run_eq (h : s.Stops work fault after) : s.run work = (.error fault, after) :=
  h

theorem Yields.ask_eq (h : s.Yields work value after) : s.ask work = .ok value := by
  rw [ask, h.run_eq]

theorem Yields.perform_eq (h : s.Yields work value after) : s.perform work = (.ok value, after) := by
  rw [perform, h.run_eq]

/-- A unit of work that stops is undone, but for the keys that it drew. -/
theorem Stops.perform_eq (h : s.Stops work fault after)
    : s.perform work = (.error fault, { s with sequences := after.sequences }) := by
  rw [perform, h.run_eq]

end Units

section Programs

variable {α β : Type} {s after : Store} {fault : Fault}

/-- Work either yields or stops, by cases on its result. -/
theorem yields_or_stops (s : Store) (work : Work α)
    : (∃ value after, s.Yields work value after) ∨ ∃ fault after, s.Stops work fault after := by
  rcases h : s.run work with ⟨value | fault, after⟩
  · exact .inr ⟨value, after, h⟩
  · exact .inl ⟨fault, after, h⟩

/-- Work yields the value of its result. -/
theorem yields_of_toOption {work : Work α} {value : α}
    (h : (s.run work).1.toOption = some value)
    : s.Yields work value (s.run work).2 := by
  rcases s.yields_or_stops work with ⟨found, after, run⟩ | ⟨fault, after, run⟩
  · rw [run.run_eq] at h ⊢
    cases h
    exact run
  · rw [run.run_eq] at h
    cases h

/-- Work whose result is no value stops. -/
theorem stops_of_toOption {work : Work α} (h : (s.run work).1.toOption = none)
    : ∃ fault, s.Stops work fault (s.run work).2 := by
  rcases s.yields_or_stops work with ⟨found, after, run⟩ | ⟨fault, after, run⟩
  · rw [run.run_eq] at h
    cases h
  · rw [run.run_eq]
    exact ⟨fault, run⟩

@[simp]
theorem yields_pure_iff {given value : α}
    : s.Yields (pure given) value after ↔ value = given ∧ after = s := by
  rw [Yields, run_pure]
  simp only [Prod.mk.injEq, Except.ok.injEq, eq_comm]

@[simp]
theorem not_stops_pure {given : α} : ¬ s.Stops (pure given) fault after := by
  simp [Stops, run_pure]

@[simp]
theorem not_yields_throw {given : Fault} {value : α}
    : ¬ s.Yields (throw given : Work α) value after := by
  simp [Yields, run_throw]

@[simp]
theorem stops_throw_iff {given : Fault}
    : s.Stops (throw given : Work α) fault after ↔ fault = given ∧ after = s := by
  rw [Stops, run_throw]
  simp only [Prod.mk.injEq, Except.error.injEq, eq_comm]

/-- Work in two parts yields what the second part yields where the first left the store. -/
@[simp]
theorem yields_bind_iff {first : Work α} {second : α → Work β} {value : β}
    : s.Yields (first >>= second) value after
      ↔ ∃ found middle, s.Yields first found middle ∧ middle.Yields (second found) value after := by
  simp only [Yields, run_bind]
  rcases s.run first with ⟨_ | found, middle⟩
  · simp
  · constructor
    · exact fun h => ⟨found, middle, rfl, h⟩
    · intro h
      obtain ⟨_, _, same, h⟩ := h
      cases same
      exact h

/-- Work in two parts stops in the first part, or in the second where the first left the store. -/
@[simp]
theorem stops_bind_iff {first : Work α} {second : α → Work β}
    : s.Stops (first >>= second) fault after
      ↔ s.Stops first fault after
        ∨ ∃ found middle,
            s.Yields first found middle ∧ middle.Stops (second found) fault after := by
  simp only [Yields, Stops, run_bind]
  rcases s.run first with ⟨_ | found, middle⟩
  · simp
  · constructor
    · exact fun h => .inr ⟨found, middle, rfl, h⟩
    · intro h
      rcases h with impossible | ⟨_, _, same, h⟩
      · cases impossible
      · cases same
        exact h

/-- A choice between two works yields what the chosen one yields. -/
@[simp]
theorem yields_ite_iff {condition : Prop} [Decidable condition] {first second : Work α} {value : α}
    : s.Yields (if condition then first else second) value after
      ↔ (condition ∧ s.Yields first value after) ∨ (¬ condition ∧ s.Yields second value after) := by
  split <;> simp [*]

@[simp]
theorem stops_ite_iff {condition : Prop} [Decidable condition] {first second : Work α}
    : s.Stops (if condition then first else second) fault after
      ↔ (condition ∧ s.Stops first fault after) ∨ (¬ condition ∧ s.Stops second fault after) := by
  split <;> simp [*]

/-- A result that does not depend on the store is yielded as it is. -/
@[simp]
theorem yields_lift_iff {result : Except Fault α} {value : α}
    : s.Yields (liftM result : Work α) value after ↔ result = .ok value ∧ after = s := by
  cases result with
  | ok given =>
      show s.Yields (pure given) value after ↔ _
      simp [eq_comm]
  | error given =>
      show s.Yields (throw given) value after ↔ _
      simp

@[simp]
theorem yields_get_iff {value : Store}
    : s.Yields (get : Work Store) value after ↔ value = s ∧ after = s :=
  yields_pure_iff

@[simp]
theorem not_stops_get : ¬ s.Stops (get : Work Store) fault after :=
  not_stops_pure

@[simp]
theorem yields_set_iff {next : Store} {value : PUnit}
    : s.Yields (set next : Work PUnit) value after ↔ after = next := by
  show ((Except.ok PUnit.unit, next) : Except Fault PUnit × Store) = (.ok value, after) ↔ _
  simp [eq_comm]

@[simp]
theorem not_stops_set {next : Store} : ¬ s.Stops (set next : Work PUnit) fault after := by
  show ¬ ((Except.ok PUnit.unit, next) : Except Fault PUnit × Store) = (.error fault, after)
  simp

@[simp]
theorem yields_modify_iff {change : Store → Store} {value : PUnit}
    : s.Yields (modify change : Work PUnit) value after ↔ after = change s := by
  show ((Except.ok PUnit.unit, change s) : Except Fault PUnit × Store) = (.ok value, after) ↔ _
  simp [eq_comm]

@[simp]
theorem not_stops_modify {change : Store → Store}
    : ¬ s.Stops (modify change : Work PUnit) fault after := by
  show ¬ ((Except.ok PUnit.unit, change s) : Except Fault PUnit × Store) = (.error fault, after)
  simp

end Programs

section Statements

open Work

variable {s after : Store} {fault : Fault} {kind : Kind} {id : TableId}

@[simp]
theorem not_yields_refuse {α : Type} {cause : StoreError} {value : α}
    : ¬ s.Yields (refuse cause) value after :=
  not_yields_throw

@[simp]
theorem stops_refuse_iff {α : Type} {cause : StoreError}
    : s.Stops (refuse cause : Work α) fault after ↔ fault = .database cause ∧ after = s :=
  stops_throw_iff

/-- A table that a statement names is yielded if there is one. -/
@[simp]
theorem yields_present_iff {α : Type} {table : Option α} {rows : α}
    : s.Yields (present id table) rows after ↔ table = some rows ∧ after = s := by
  cases table <;> simp [present, eq_comm]

@[simp]
theorem stops_present_iff {α : Type} {table : Option α}
    : s.Stops (present id table) fault after
      ↔ (table = none ∧ fault = .database (.missingTable id.name)) ∧ after = s := by
  cases table <;> simp [present]

/-- The live table of a kind is yielded if it is there. -/
@[simp]
theorem yields_liveTable_iff {rows : Table (LiveRow kind)}
    : s.Yields (liveTable kind) rows after ↔ s.tables.live kind = some rows ∧ after = s := by
  simp [liveTable, and_assoc]

@[simp]
theorem yields_archiveTable_iff {rows : Table (ArchivedRow kind)}
    : s.Yields (archiveTable kind) rows after
      ↔ s.tables.archive kind = some rows ∧ after = s := by
  simp [archiveTable, and_assoc]

@[simp]
theorem stops_liveTable_iff
    : s.Stops (liveTable kind) fault after
      ↔ (s.tables.live kind = none ∧ fault = .database (.missingTable (TableId.live kind).name))
        ∧ after = s := by
  simp [liveTable, and_assoc]

@[simp]
theorem stops_archiveTable_iff
    : s.Stops (archiveTable kind) fault after
      ↔ (s.tables.archive kind = none
          ∧ fault = .database (.missingTable (TableId.archive kind).name))
        ∧ after = s := by
  simp [archiveTable, and_assoc]

@[simp]
theorem yields_logTable_iff {rows : Table LogRow}
    : s.Yields logTable rows after ↔ s.tables.log = some rows ∧ after = s := by
  simp [logTable, and_assoc]

@[simp]
theorem stops_logTable_iff
    : s.Stops logTable fault after
      ↔ (s.tables.log = none ∧ fault = .database (.missingTable TableId.log.name))
        ∧ after = s := by
  simp [logTable, and_assoc]

@[simp]
theorem yields_putLive_iff {rows : Table (LiveRow kind)} {value : Unit}
    : s.Yields (putLive kind rows) value after
      ↔ after = { s with tables := s.tables.setLive kind rows } := by
  simp [putLive]

@[simp]
theorem not_stops_putLive {rows : Table (LiveRow kind)}
    : ¬ s.Stops (putLive kind rows) fault after := by
  simp [putLive]

@[simp]
theorem yields_putArchive_iff {rows : Table (ArchivedRow kind)} {value : Unit}
    : s.Yields (putArchive kind rows) value after
      ↔ after = { s with tables := s.tables.setArchive kind rows } := by
  simp [putArchive]

@[simp]
theorem not_stops_putArchive {rows : Table (ArchivedRow kind)}
    : ¬ s.Stops (putArchive kind rows) fault after := by
  simp [putArchive]

@[simp]
theorem yields_putLog_iff {rows : Table LogRow} {value : Unit}
    : s.Yields (putLog rows) value after
      ↔ after = { s with tables := s.tables.setLog rows } := by
  simp [putLog]

@[simp]
theorem not_stops_putLog {rows : Table LogRow} : ¬ s.Stops (putLog rows) fault after := by
  simp [putLog]

/-- Texts pass if the store can hold them all. -/
@[simp]
theorem yields_checkTexts_iff {texts : List String} {value : Unit}
    : s.Yields (checkTexts texts) value after ↔ texts.any hasNul = false ∧ after = s := by
  simp [checkTexts]

@[simp]
theorem stops_checkTexts_iff {texts : List String}
    : s.Stops (checkTexts texts) fault after
      ↔ texts.any hasNul = true ∧ fault = .database .textWithNul ∧ after = s := by
  simp [checkTexts]

/-- Dates pass if the store can hold them all. -/
@[simp]
theorem yields_checkDates_iff {dates : List Date} {value : Unit}
    : s.Yields (checkDates dates) value after ↔ dates.all Date.isStorable = true ∧ after = s := by
  simp [checkDates]

@[simp]
theorem stops_checkDates_iff {dates : List Date}
    : s.Stops (checkDates dates) fault after
      ↔ dates.all Date.isStorable = false ∧ fault = .database .dateOutOfRange ∧ after = s := by
  simp [checkDates]

/-- A key passes if it is free. -/
@[simp]
theorem yields_checkFree_iff {α : Type} {rows : Table α} {key : Int} {value : Unit}
    : s.Yields (checkFree id rows key) value after ↔ rows.contains key = false ∧ after = s := by
  simp [checkFree]

@[simp]
theorem stops_checkFree_iff {α : Type} {rows : Table α} {key : Int}
    : s.Stops (checkFree id rows key) fault after
      ↔ rows.contains key = true ∧ fault = .database (.duplicateKey (primaryKey id))
        ∧ after = s := by
  simp [checkFree]

/-- A row passes if nothing is missing in it that must be there. -/
@[simp]
theorem yields_checkFilled_iff {columns : Shape} {cells : List Cell} {value : Unit}
    : s.Yields (checkFilled id columns cells) value after
      ↔ columns.gap? cells = none ∧ after = s := by
  cases h : columns.gap? cells <;> simp [checkFilled, h]

@[simp]
theorem stops_checkFilled_iff {columns : Shape} {cells : List Cell}
    : s.Stops (checkFilled id columns cells) fault after
      ↔ ∃ column,
          columns.gap? cells = some column ∧ fault = .database (.emptyColumn id.name column)
          ∧ after = s := by
  cases h : columns.gap? cells <;> simp [checkFilled, h]

/-- An answer passes if nothing is missing in it that must be there. -/
@[simp]
theorem yields_checkAnswer_iff {columns : Shape} {cells : List Cell} {value : Unit}
    : s.Yields (checkAnswer columns cells) value after
      ↔ columns.gap? cells = none ∧ after = s := by
  cases h : columns.gap? cells <;> simp [checkAnswer, h]

end Statements

end Store

end AdoptionRecords
