import AdoptionRecords.Proofs.Store.Running
import Mathlib.Order.Defs.PartialOrder

/-! Where work stops. Work that writes nothing leaves the tables as they are, and work that writes
last has written nothing where it stops; keys may be drawn in vain. Both go on through the parts of
work, so every unit of work is followed statement by statement.
-/

namespace AdoptionRecords

open Calendar Text

/-- Sequences are ordered by the keys that they give next, each at most the other's. -/
instance : Preorder Sequences where
  le a b := (∀ kind, a.live kind ≤ b.live kind) ∧ a.log ≤ b.log
  le_refl _ := ⟨fun _ => Int.le_refl _, Int.le_refl _⟩
  le_trans _ _ _ hab hbc :=
    ⟨fun kind => Int.le_trans (hab.1 kind) (hbc.1 kind), Int.le_trans hab.2 hbc.2⟩

namespace Store

/-- A store keeps its tables as it becomes another: at most keys were drawn in vain. -/
structure Keeps (s after : Store) : Prop where
  tables : after.tables = s.tables
  sequences : s.sequences ≤ after.sequences

theorem Keeps.refl (s : Store) : s.Keeps s :=
  ⟨rfl, le_rfl⟩

/-- A store that twice keeps its tables keeps them. -/
theorem Keeps.trans {s middle after : Store} (head : s.Keeps middle) (tail : middle.Keeps after)
    : s.Keeps after :=
  ⟨tail.tables.trans head.tables, le_trans head.sequences tail.sequences⟩

end Store

namespace Work

/-- Work writes last if it has written nothing where it stops. -/
structure WritesLast {α : Type} (work : Work α) : Prop where
  stops : ∀ {s : Store} {fault after}, s.Stops work fault after → s.Keeps after

/-- Work writes nothing, whether it yields a value or stops. -/
structure WritesNothing {α : Type} (work : Work α) : Prop extends WritesLast work where
  yields : ∀ {s : Store} {value after}, s.Yields work value after → s.Keeps after

section Programs

variable {α β : Type}

theorem WritesNothing.pure (value : α) : WritesNothing (Pure.pure value : Work α) where
  stops h := (Store.not_stops_pure h).elim
  yields h := by
    obtain ⟨-, rfl⟩ := Store.yields_pure_iff.mp h
    exact .refl _

theorem WritesNothing.throw (fault : Fault) : WritesNothing (throw fault : Work α) where
  stops h := by
    obtain ⟨-, rfl⟩ := Store.stops_throw_iff.mp h
    exact .refl _
  yields h := (Store.not_yields_throw h).elim

theorem WritesNothing.refuse (cause : StoreError) : WritesNothing (refuse cause : Work α) :=
  .throw _

theorem WritesNothing.get : WritesNothing (get : Work Store) where
  stops h := (Store.not_stops_get h).elim
  yields h := by
    obtain ⟨-, rfl⟩ := Store.yields_get_iff.mp h
    exact .refl _

/-- Work in two parts of which neither writes anything writes nothing. -/
theorem WritesNothing.bind {first : Work α} {second : α → Work β} (head : WritesNothing first)
    (tail : ∀ value, WritesNothing (second value))
    : WritesNothing (first >>= second) where
  stops h := by
    rcases Store.stops_bind_iff.mp h with early | ⟨value, middle, passed, late⟩
    · exact head.stops early
    · exact (head.yields passed).trans ((tail value).stops late)
  yields h := by
    obtain ⟨value, middle, passed, last⟩ := Store.yields_bind_iff.mp h
    exact (head.yields passed).trans ((tail value).yields last)

theorem WritesNothing.ite {condition : Prop} [Decidable condition] {first second : Work α}
    (holds : WritesNothing first) (fails : WritesNothing second)
    : WritesNothing (if condition then first else second) := by
  split
  · exact holds
  · exact fails

/-- A result that does not depend on the store writes nothing. -/
theorem WritesNothing.lift (result : Except Fault α) : WritesNothing (liftM result : Work α) := by
  cases result with
  | ok value => exact .pure value
  | error fault => exact .throw fault

/-- Work goes on writing last after a part that writes nothing. -/
theorem WritesLast.bind {first : Work α} {second : α → Work β} (head : WritesNothing first)
    (tail : ∀ value, WritesLast (second value))
    : WritesLast (first >>= second) where
  stops h := by
    rcases Store.stops_bind_iff.mp h with early | ⟨value, middle, passed, late⟩
    · exact head.stops early
    · exact (head.yields passed).trans ((tail value).stops late)

theorem WritesLast.ite {condition : Prop} [Decidable condition] {first second : Work α}
    (holds : WritesLast first) (fails : WritesLast second)
    : WritesLast (if condition then first else second) := by
  split
  · exact holds
  · exact fails

/-- Work that writes last does so also if its value is then put to use. -/
theorem WritesLast.bind_pure {first : Work α} {use : α → β} (head : WritesLast first)
    : WritesLast (first >>= fun value => Pure.pure (use value)) where
  stops h := by
    rcases Store.stops_bind_iff.mp h with early | ⟨_, _, -, late⟩
    · exact head.stops early
    · exact (Store.not_stops_pure late).elim

/-- Work that stops at its first part does not come to its second, whatever that writes. -/
theorem WritesLast.throw_bind (fault : Fault) (second : α → Work β)
    : WritesLast (MonadExcept.throw fault >>= second) where
  stops h := by
    rcases Store.stops_bind_iff.mp h with early | ⟨_, _, impossible, -⟩
    · exact (WritesNothing.throw fault).stops early
    · exact (Store.not_yields_throw impossible).elim

/-- Work that never stops may write anything. -/
theorem WritesLast.of_not_stops {work : Work α}
    (h : ∀ {s fault after}, ¬ Store.Stops s work fault after)
    : WritesLast work where
  stops stopped := (h stopped).elim

end Programs

section Statements

theorem writesNothing_present {α : Type} (id : TableId) (table : Option α)
    : WritesNothing (present id table) := by
  cases table with
  | none => exact .refuse _
  | some rows => exact .pure rows

theorem writesNothing_liveTable (kind : Kind) : WritesNothing (liveTable kind) :=
  .bind .get fun _ => writesNothing_present ..

theorem writesNothing_archiveTable (kind : Kind) : WritesNothing (archiveTable kind) :=
  .bind .get fun _ => writesNothing_present ..

theorem writesNothing_logTable : WritesNothing logTable :=
  .bind .get fun _ => writesNothing_present ..

theorem writesNothing_checkTexts (texts : List String) : WritesNothing (checkTexts texts) :=
  .ite (.refuse _) (.pure _)

theorem writesNothing_checkDates (dates : List Date) : WritesNothing (checkDates dates) :=
  .ite (.pure _) (.refuse _)

theorem writesNothing_checkFree {α : Type} (id : TableId) (rows : Table α) (key : Int)
    : WritesNothing (checkFree id rows key) :=
  .ite (.refuse _) (.pure _)

theorem writesNothing_checkFilled (id : TableId) (columns : Shape) (cells : List Cell)
    : WritesNothing (checkFilled id columns cells) := by
  rw [checkFilled]
  cases columns.gap? cells with
  | none => exact .pure _
  | some column => exact .refuse _

theorem writesNothing_checkAnswer (columns : Shape) (cells : List Cell)
    : WritesNothing (checkAnswer columns cells) := by
  rw [checkAnswer]
  cases columns.gap? cells with
  | none => exact .pure _
  | some column => exact .refuse _

theorem writesNothing_checkContent (kind : Kind) (content : Content kind)
    : WritesNothing (checkContent kind content) := by
  cases kind with
  | user => exact .ite (.pure _) (.refuse _)
  | _ => exact .pure _

/-- Looking whether the rules of its table permit a row writes nothing. -/
theorem writesNothing_checkLive {kind : Kind} (row : LiveRow kind)
    : WritesNothing (checkLive kind row) :=
  .bind (writesNothing_checkFilled ..) fun _ => writesNothing_checkContent ..

end Statements

end Work

end AdoptionRecords
