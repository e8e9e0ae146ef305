import AdoptionRecords.Proofs.History.Requests
import Mathlib.Data.List.Forall2

/-! Transitions that are made in one transaction compose. A transition that a rule forbids writes
nothing and does the others no harm. As long as the store refuses none of them, committing the
transaction does what the same transitions do one after another, each in a unit of work of its own;
otherwise, and if it is rolled back, the transaction leaves every table as it was.
-/

namespace AdoptionRecords

open Calendar Text

-----------------------------------------------------------------------------------------
-- Faults of the database
-----------------------------------------------------------------------------------------

/-- Work misses nothing if each fault of the database at which it stops is a refusal by the store,
never a value that is missing in an answer.
-/
structure Work.MissesNothing {α : Type} (work : Work α) : Prop where
  stops : ∀ {s : Store} {fault after}, s.Stops work fault after →
    fault.category = .database → fault.spoils = true

namespace Work.MissesNothing

variable {α β : Type}

theorem pure (value : α) : (Pure.pure value : Work α).MissesNothing where
  stops h := (Store.not_stops_pure h).elim

/-- Work that stops for a rule misses nothing. -/
theorem throw {fault : Fault} (rule : fault.category ≠ .database)
    : (MonadExcept.throw fault : Work α).MissesNothing where
  stops h ofDatabase := by
    obtain ⟨rfl, -⟩ := Store.stops_throw_iff.mp h
    exact (rule ofDatabase).elim

theorem refuse {cause : StoreError} (refusal : cause.isRefusal = true)
    : (Work.refuse cause : Work α).MissesNothing where
  stops h _ := by
    obtain ⟨rfl, -⟩ := Store.stops_refuse_iff.mp h
    exact refusal

/-- Work in two parts of which neither misses anything misses nothing. -/
theorem bind {first : Work α} {second : α → Work β} (head : first.MissesNothing)
    (tail : ∀ value, (second value).MissesNothing)
    : (first >>= second).MissesNothing where
  stops h ofDatabase := by
    rcases Store.stops_bind_iff.mp h with early | ⟨value, middle, -, late⟩
    · exact head.stops early ofDatabase
    · exact (tail value).stops late ofDatabase

theorem ite {condition : Prop} [Decidable condition] {first second : Work α}
    (holds : first.MissesNothing) (fails : second.MissesNothing)
    : (if condition then first else second).MissesNothing := by
  split
  · exact holds
  · exact fails

theorem of_not_stops {work : Work α} (h : ∀ {s fault after}, ¬ Store.Stops s work fault after)
    : work.MissesNothing where
  stops stopped := (h stopped).elim

theorem present (id : TableId) (table : Option α) : (Work.present id table).MissesNothing := by
  cases table with
  | none => exact .refuse rfl
  | some rows => exact .pure rows

theorem liveTable (kind : Kind) : (Work.liveTable kind).MissesNothing :=
  .bind (.of_not_stops Store.not_stops_get) fun _ => .present ..

theorem archiveTable (kind : Kind) : (Work.archiveTable kind).MissesNothing :=
  .bind (.of_not_stops Store.not_stops_get) fun _ => .present ..

theorem checkTexts (texts : List String) : (Work.checkTexts texts).MissesNothing :=
  .ite (.refuse rfl) (.pure _)

theorem checkFree (id : TableId) (rows : Table α) (key : Int)
    : (Work.checkFree id rows key).MissesNothing :=
  .ite (.refuse rfl) (.pure _)

theorem checkFilled (id : TableId) (columns : Shape) (cells : List Cell)
    : (Work.checkFilled id columns cells).MissesNothing := by
  rw [Work.checkFilled]
  cases columns.gap? cells with
  | none => exact .pure _
  | some column => exact .refuse rfl

theorem checkLive {kind : Kind} (row : LiveRow kind)
    : (Work.checkLive kind row).MissesNothing := by
  refine .bind (.checkFilled ..) fun _ => ?_
  cases kind with
  | user => exact .ite (.pure _) (.refuse rfl)
  | _ => exact .pure _

end Work.MissesNothing

namespace Tables

/-- No archived row is without a value that the columns of its table require. -/
def Filled (t : Tables) : Prop :=
  ∀ kind key row, t.archivedRow? kind key = some row →
    (ArchivedRow.columns kind).gap? row.cells = none

/-- The columns of archived pets require an owner. -/
theorem Filled.owned {t : Tables} {pet : Int} {row : ArchivedRow .pet} (h : t.Filled)
    (found : t.archivedRow? .pet pet = some row)
    : row.content.owner ≠ none := by
  intro ownerless
  have filled := h .pet pet row found
  simp [ArchivedRow.columns, Kind.columns, ArchivedRow.cells, Content.cells, ownerless,
    Shape.gap?, Cell.ofOption, Field.required] at filled

end Tables

namespace Transition.Moves

/-- A transition archives no row without a value that the columns of its table require. -/
theorem filled {t : Transition} {now : Instant} {before after : Tables}
    (h : t.Moves now before after) (held : before.Filled)
    : after.Filled := by
  intro kind key row found
  by_cases own : t.kind = kind ∧ t.key = key
  · cases h with
    | archive _ ha _ _ filled _ _ =>
        obtain ⟨rfl, rfl⟩ := own
        rw [Tables.archivedRow?_setArchive_same, Table.find?_insert, if_pos rfl] at found
        cases found
        exact filled
    | restore _ ha =>
        obtain ⟨rfl, rfl⟩ := own
        simp [Table.find?_erase] at found
    | permanentDelete ha =>
        obtain ⟨rfl, rfl⟩ := own
        simp [Table.find?_erase] at found
  · rw [(h.rows_of_other own).2] at found
    exact held kind key row found

end Transition.Moves

/-- No change of a store brings an archived row without a value that its columns require. -/
theorem Tables.Filled.step {now : Instant} {s after : Store} {c : Change}
    (held : s.tables.Filled) (made : s.Makes now c after)
    : after.tables.Filled := by
  cases made with
  | transition moves => exact moves.filled held
  | create | note | amend | prune => exact held
  | complete =>
      intro kind key row found
      exact held kind key row ((s.tables.archivedRow?_complete kind key).symm.trans found)

namespace Transition

/-- The guard of a pet's return misses nothing but the owner of the archived pet. -/
theorem spoils_of_checkOwner {s after : Store} {pet : Int} {fault : Fault}
    (h : s.Stops (checkOwner pet) fault after) (filled : s.tables.Filled)
    (ofDatabase : fault.category = .database)
    : fault.spoils = true := by
  rcases Store.stops_bind_iff.mp h with early | ⟨archived, middle, reached, late⟩
  · exact (Work.MissesNothing.archiveTable .pet).stops early ofDatabase
  obtain ⟨present, rfl⟩ := Store.yields_archiveTable_iff.mp reached
  cases found : archived.find? pet with
  | none =>
      simp only [found] at late
      obtain ⟨rfl, -⟩ := Store.stops_throw_iff.mp late
      cases ofDatabase
  | some row =>
      have owned := filled.owned ((Tables.archivedRow?_of_archive present pet).trans found)
      obtain ⟨owner, owned⟩ := Option.ne_none_iff_exists'.mp owned
      simp only [found, owned] at late
      have guard : (do
          let owners ← Work.liveTable .petOwner
          if !owners.contains owner then
            MonadExcept.throw (Fault.ownerNotLive owner pet) : Work Unit).MissesNothing :=
        .bind (.liveTable _) fun _ => .ite (.throw nofun) (.pure _)
      exact guard.stops late ofDatabase

theorem missesNothing_checkPets (owner : Int) : (checkPets owner).MissesNothing :=
  .bind (.liveTable _) fun _ =>
    .bind (.liveTable _) fun _ =>
    .ite (.throw nofun) (.pure _)

theorem missesNothing_moveToArchive (kind : Kind) (key : Int) (actor : Option Int)
    (reason : String) (now : Instant)
    : (moveToArchive kind key actor reason now).MissesNothing := by
  refine .bind (.liveTable _) fun live => ?_
  refine .bind (.archiveTable _) fun archived => ?_
  refine .bind (.checkTexts _) fun _ => ?_
  cases live.find? key with
  | none => exact .throw nofun
  | some row =>
      refine .bind (.checkFilled ..) fun _ => ?_
      refine .bind (.checkFree ..) fun _ => ?_
      exact .of_not_stops (by simp)

theorem missesNothing_moveToLive (kind : Kind) (key : Int)
    : (moveToLive kind key).MissesNothing := by
  refine .bind (.archiveTable _) fun archived => ?_
  refine .bind (.liveTable _) fun live => ?_
  cases archived.find? key with
  | none => exact .throw nofun
  | some row =>
      refine .bind (.checkLive _) fun _ => ?_
      refine .bind (.checkFree ..) fun _ => ?_
      exact .of_not_stops (by simp)

theorem missesNothing_removeArchived (kind : Kind) (key : Int)
    : (removeArchived kind key).MissesNothing := by
  refine .bind (.archiveTable _) fun archived => ?_
  refine .ite (.bind (.throw nofun) fun _ => .of_not_stops (by simp)) ?_
  exact .of_not_stops (by simp)

/-- Where the archived rows have all values that their columns require, a transition that fails for
the database was refused by the store.
-/
theorem spoils_of_stops {t : Transition} {now : Instant} {s after : Store} {fault : Fault}
    (h : s.Stops (t.carryOut now) fault after) (filled : s.tables.Filled)
    (ofDatabase : fault.category = .database)
    : fault.spoils = true := by
  rcases Store.stops_bind_iff.mp h with early | ⟨_, middle, -, late⟩
  · obtain ⟨operation, kind, key, actor, reason⟩ := t
    cases operation with
    | archive =>
        have guarded : (move ⟨.archive, kind, key, actor, reason⟩ now).MissesNothing := by
          refine .ite ?_ ?_
          · exact .bind (missesNothing_checkPets _) fun _ => missesNothing_moveToArchive ..
          · exact missesNothing_moveToArchive ..
        exact guarded.stops early ofDatabase
    | restore =>
        rcases Store.stops_ite_iff.mp early with ⟨-, early⟩ | ⟨-, early⟩
        · rcases Store.stops_bind_iff.mp early with guard | ⟨_, middle, -, late⟩
          · exact spoils_of_checkOwner guard filled ofDatabase
          · exact (missesNothing_moveToLive ..).stops late ofDatabase
        · exact (missesNothing_moveToLive ..).stops early ofDatabase
    | permanentDelete => exact (missesNothing_removeArchived ..).stops early ofDatabase
  · exact late.spoils_of_record

end Transition

/-- Only a fault of the database spoils a transaction. -/
theorem Fault.category_of_spoils {fault : Fault} (h : fault.spoils = true)
    : fault.category = .database := by
  cases fault with
  | database => rfl
  | _ => cases h

-----------------------------------------------------------------------------------------
-- One transition, in a transaction and by itself
-----------------------------------------------------------------------------------------

/-- An answer in a transaction that reports an error of the database. -/
def Call.IsDatabaseError : Except Fault Call.Answer → Prop
  | .ok _ => False
  | .error fault => fault.category = .database

instance : DecidablePred Call.IsDatabaseError
  | .ok _ => .isFalse not_false
  | .error fault => inferInstanceAs (Decidable (fault.category = .database))

/-- An answer in a transaction agrees with the outcome of a transition if both tell of the same log
entry, or neither tells of one.
-/
def Outcome.Agrees (answer : Except Fault Call.Answer) (outcome : Outcome) : Prop :=
  ∀ entry, answer = .ok (.entry entry) ↔ outcome = .completed entry

theorem Outcome.agrees_ok (entry : LogEntry) : Agrees (.ok (.entry entry)) (.completed entry) := by
  intro other
  simp

/-- A call that fails agrees with the outcome of its fault, which is not completion. -/
theorem Outcome.agrees_error (fault : Fault)
    : Agrees (.error fault) (Outcome.ofResult (.error fault)) := by
  intro entry
  cases h : fault.category <;> simp [Outcome.ofResult, h]

namespace Transaction

variable {s after : Store} {now : Instant} {t : Transition} {fault : Fault}

/-- A transition that is carried out in a sound transaction leaves it sound. -/
theorem call_of_yields {entry : LogEntry} (h : s.Yields (t.carryOut now) entry after)
    : (start s).call now (.transition t) = (.ok (.entry entry), start after) := by
  have work : s.Yields ((Call.transition t).work now) (.entry entry) after := by
    simp only [Call.work, Store.yields_bind_iff, Store.yields_pure_iff]
    exact ⟨entry, after, h, rfl, rfl⟩
  simp only [call, Call.refused?, start, work.run_eq]
  rfl

/-- A transition that stops in a sound transaction spoils it if the store refused a statement. -/
theorem call_of_stops (h : s.Stops (t.carryOut now) fault after)
    : (start s).call now (.transition t) = (.error fault, ⟨after, fault.spoils⟩) := by
  have work : s.Stops ((Call.transition t).work now) fault after := by
    simp only [Call.work, Store.stops_bind_iff]
    exact .inl h
  simp only [call, Call.refused?, start, work.run_eq]
  rfl

/-- What becomes of a transition in a sound transaction: it is carried out; or the store refuses it,
which spoils the transaction; or a rule forbids it, and it has written nothing.
-/
theorem call_cases (s : Store) (now : Instant) (t : Transition)
    : (∃ entry after, s.Yields (t.carryOut now) entry after
        ∧ (start s).call now (.transition t) = (.ok (.entry entry), start after))
      ∨ (∃ fault after, s.Stops (t.carryOut now) fault after ∧ fault.spoils = true
        ∧ (start s).call now (.transition t) = (.error fault, ⟨after, true⟩))
      ∨ ∃ fault after, s.Stops (t.carryOut now) fault after ∧ fault.spoils = false
        ∧ after.tables = s.tables
        ∧ (start s).call now (.transition t) = (.error fault, start after) := by
  rcases s.yields_or_stops (t.carryOut now) with ⟨entry, after, run⟩ | ⟨fault, after, run⟩
  · exact .inl ⟨entry, after, run, call_of_yields run⟩
  · have call := call_of_stops run
    cases spoils : fault.spoils with
    | true =>
        rw [spoils] at call
        exact .inr (.inl ⟨fault, after, run, spoils, call⟩)
    | false =>
        rw [spoils] at call
        rcases run.of_carryOut with ⟨refused, -⟩ | kept
        · rw [spoils] at refused
          cases refused
        · exact .inr (.inr ⟨fault, after, run, spoils, kept.tables, call⟩)

theorem call_of_aborted {tx : Transaction} (spoiled : tx.spoiled = true)
    : tx.call now (.transition t) = (.error (.database .transactionAborted), tx) := by
  simp [call, Call.refused?, spoiled]

/-- A transition that a rule forbids writes nothing and leaves the transaction sound. -/
theorem call_of_rule {tx : Transaction} (h : (tx.call now (.transition t)).1 = .error fault)
    (rule : fault.category = .notFound ∨ fault.category = .precondition)
    : (tx.call now (.transition t)).2.store.tables = tx.store.tables
      ∧ (tx.call now (.transition t)).2.spoiled = false := by
  have unspoiling : fault.spoils = false := by
    cases fault with
    | database => simp [Fault.category] at rule
    | _ => rfl
  obtain ⟨store, spoiled⟩ := tx
  cases spoiled with
  | true =>
      rw [call_of_aborted rfl] at h
      cases h
      cases unspoiling
  | false =>
      have sound : Transaction.mk store false = start store := rfl
      rw [sound] at h ⊢
      rcases call_cases store now t
        with ⟨_, _, -, call⟩ | ⟨_, _, -, spoils, call⟩ | ⟨_, _, -, -, tables, call⟩
      · rw [call] at h
        cases h
      · rw [call] at h
        cases h
        rw [unspoiling] at spoils
        cases spoils
      · rw [call]
        exact ⟨tables, rfl⟩

end Transaction

-----------------------------------------------------------------------------------------
-- Many transitions, in a transaction and one after another
-----------------------------------------------------------------------------------------

namespace Transaction

/-- In an aborted transaction every transition is answered with that, by induction on them. -/
theorem answers_of_aborted (tx : Transaction) (now : Instant) (spoiled : tx.spoiled = true)
    (ts : List Transition)
    : ∀ answer ∈ (tx.calls now (ts.map .transition)).1,
        answer = .error (.database .transactionAborted) := by
  induction ts with
  | nil => simp [calls]
  | cons t rest ih =>
      simp only [List.map_cons, calls, call_of_aborted spoiled, List.forall_mem_cons, true_and]
      exact ih

/-- A transaction of transitions is spoiled in the end exactly when the store refused one of them,
by induction on them.
-/
theorem spoiled_iff (s : Store) (now : Instant) (ts : List Transition)
    : ((start s).calls now (ts.map .transition)).2.spoiled = true
      ↔ ∃ fault, .error fault ∈ ((start s).calls now (ts.map .transition)).1
          ∧ fault.spoils = true := by
  induction ts generalizing s with
  | nil => simp [calls, start]
  | cons t rest ih =>
      simp only [List.map_cons, calls]
      rcases call_cases s now t
        with ⟨entry, after, -, call⟩ | ⟨fault, after, -, spoils, call⟩
          | ⟨fault, after, -, spoils, -, call⟩
      · simp [call, ih after]
      · obtain ⟨-, last⟩ := calls_of_spoiled (t := ⟨after, true⟩) now rfl (rest.map .transition)
        rw [call, last]
        exact iff_of_true rfl ⟨fault, List.mem_cons_self .., spoils⟩
      · simp [call, ih after, spoils]

/-- Once the store refused a transition, every later one fails, by induction on them. -/
theorem pairwise_of_refusal (s : Store) (now : Instant) (ts : List Transition)
    : ((start s).calls now (ts.map .transition)).1.Pairwise fun earlier later =>
        (∃ fault, earlier = .error fault ∧ fault.spoils = true) → ∃ fault, later = .error fault := by
  induction ts generalizing s with
  | nil => exact .nil
  | cons t rest ih =>
      simp only [List.map_cons, calls]
      rcases call_cases s now t
        with ⟨entry, after, -, call⟩ | ⟨fault, after, -, spoils, call⟩
          | ⟨fault, after, -, spoils, -, call⟩
      · rw [call]
        refine .cons ?_ (ih after)
        intro later _ refused
        obtain ⟨fault, impossible, -⟩ := refused
        cases impossible
      · have aborted := answers_of_aborted ⟨after, true⟩ now rfl rest
        have failing : ∀ later ∈ ((⟨after, true⟩ : Transaction).calls now
            (rest.map .transition)).1, ∃ fault, later = .error fault :=
          fun later member => ⟨_, aborted later member⟩
        rw [call]
        refine .cons (fun later member _ => failing later member) ?_
        exact List.pairwise_of_forall_mem_list fun _ _ later member _ => failing later member
      · rw [call]
        refine .cons ?_ (ih after)
        intro later _ refused
        obtain ⟨found, same, refusal⟩ := refused
        cases same
        rw [spoils] at refusal
        cases refusal

/-- Where the archived rows have all values that their columns require, a transition that fails for
the database was refused by the store, by induction on the transitions.
-/
theorem spoils_of_answer {s : Store} (filled : s.tables.Filled) (now : Instant)
    (ts : List Transition) {fault : Fault}
    (member : .error fault ∈ ((start s).calls now (ts.map .transition)).1)
    (ofDatabase : fault.category = .database)
    : fault.spoils = true := by
  induction ts generalizing s with
  | nil => simp [calls] at member
  | cons t rest ih =>
      simp only [List.map_cons, calls] at member
      rcases call_cases s now t
        with ⟨entry, after, run, call⟩ | ⟨found, after, run, -, call⟩
          | ⟨found, after, run, -, tables, call⟩
      · rw [call] at member
        obtain ⟨moved, moves, recorded⟩ := Store.yields_carryOut_iff.mp run
        obtain ⟨rows, present, -, -, -, -, rfl⟩ := Store.yields_record_iff.mp recorded
        rcases List.mem_cons.mp member with impossible | later
        · cases impossible
        · exact ih (moves.filled filled) later
      · rw [call] at member
        rcases List.mem_cons.mp member with same | later
        · cases same
          exact Transition.spoils_of_stops run filled ofDatabase
        · cases answers_of_aborted ⟨after, true⟩ now rfl rest _ later
          rfl
      · rw [call] at member
        rcases List.mem_cons.mp member with same | later
        · cases same
          exact Transition.spoils_of_stops run filled ofDatabase
        · rw [← tables] at filled
          exact ih filled later

end Transaction

namespace Database

/-- In a transaction that stays sound, transitions are answered as they turn out one after another,
and they lead to the same store, by induction on them.
-/
theorem calls_agree {d : Database} (reachable : d.reachable = true) (ts : List Transition)
    (sound : ((Transaction.start d.store).calls d.now (ts.map .transition)).2.spoiled = false)
    : ((Transaction.start d.store).calls d.now (ts.map .transition)).2.store
        = (d.after (ts.map .transition)).store
      ∧ List.Forall₂ Outcome.Agrees
          ((Transaction.start d.store).calls d.now (ts.map .transition)).1 (d.outcomes ts) := by
  induction ts generalizing d with
  | nil => exact ⟨rfl, .nil⟩
  | cons t rest ih =>
      have later := @ih ((transition t).run d).2 ((reachable_transition d t).trans reachable)
      rw [now_transition] at later
      simp only [List.map_cons, Transaction.calls, after, outcomes] at sound ⊢
      rcases Transaction.call_cases d.store d.now t
        with ⟨entry, reached, run, call⟩ | ⟨fault, reached, run, spoils, call⟩
          | ⟨fault, reached, run, spoils, tables, call⟩
      · obtain ⟨outcome, store⟩ := run_transition_of_yields reachable run
        rw [store] at later
        rw [call] at sound ⊢
        obtain ⟨same, agree⟩ := later sound
        rw [outcome]
        exact ⟨same, .cons (Outcome.agrees_ok entry) agree⟩
      · rw [call, (Transaction.calls_of_spoiled d.now rfl _).2] at sound
        cases sound
      · obtain ⟨outcome, store⟩ := run_transition_of_stops reachable run
        -- A transition that a rule forbids has written nothing, so nothing is undone by itself.
        have kept : (⟨d.store.tables, reached.sequences⟩ : Store) = reached := by
          rw [← tables]
        rw [store.trans kept] at later
        rw [call] at sound ⊢
        obtain ⟨same, agree⟩ := later sound
        rw [outcome]
        exact ⟨same, .cons (Outcome.agrees_error fault) agree⟩

/-- The answers in a transaction do not depend on how it ends. -/
theorem answers_transact {d : Database} (reachable : d.reachable = true) (cs : List Call)
    (commit : Bool)
    : ((transact cs commit).run d).1 = .ok ((Transaction.start d.store).calls d.now cs).1 := by
  rw [run_transact, if_pos reachable]
  rfl

/-- A transaction that is rolled back or spoiled leaves the tables as they were. -/
theorem tables_transact_of_undone {d : Database} (cs : List Call) {commit : Bool}
    (undone : (commit && !((Transaction.start d.store).calls d.now cs).2.spoiled) = false)
    : ((transact cs commit).run d).2.store.tables = d.store.tables := by
  obtain ⟨-, -, -, tables, -⟩ := runs_transact d cs commit
  exact tables undone

/-- A sound transaction that is committed leaves the store that its calls reached. -/
theorem store_transact_of_sound {d : Database} (reachable : d.reachable = true) (cs : List Call)
    (sound : ((Transaction.start d.store).calls d.now cs).2.spoiled = false)
    : ((transact cs true).run d).2.store
        = ((Transaction.start d.store).calls d.now cs).2.store := by
  rw [run_transact, if_pos reachable]
  simp [Store.transact, Transaction.finish, sound]

/-- In every run from a fresh database the archived rows have all values that their columns
require.
-/
theorem filled_after (clock : Instant) (requests : List Request)
    : ((fresh clock).after requests).store.tables.Filled := by
  have any : (fresh clock).Throughout (fun _ _ => True) requests :=
    .of_forall (fun _ _ _ => trivial) _
  refine preserves_tables Tables.Filled (fun _ _ _ _ _ _ _ held made => held.step made) any ?_
  intro kind key row found
  cases found

/-- Transitions in one transaction compose, on any store that can be reached. A transition that a
rule forbids writes nothing and leaves the transaction sound. If the database fails for none of
them, committing leads to the store to which the same transitions lead one after another, and each
is answered as it turns out there. Rolling back leaves the tables as they were. So does an error of
the database, however the transaction ends, and every later transition fails; for this the rows of
the archive have all values that the schema requires of them.
-/
theorem transaction_composes (d : Database) (reachable : d.reachable = true)
    (ts : List Transition)
    : let calls := ts.map Call.transition
      let answers := ((Transaction.start d.store).calls d.now calls).1
      (∀ commit, ((transact calls commit).run d).1 = .ok answers)
      ∧ (∀ tx t fault, (Transaction.call tx d.now (.transition t)).1 = .error fault →
          fault.category = .notFound ∨ fault.category = .precondition →
          (tx.call d.now (.transition t)).2.store.tables = tx.store.tables
          ∧ (tx.call d.now (.transition t)).2.spoiled = false)
      ∧ ((∀ answer ∈ answers, ¬ Call.IsDatabaseError answer) →
          ((transact calls true).run d).2.store = (d.after (ts.map .transition)).store
          ∧ List.Forall₂ Outcome.Agrees answers (d.outcomes ts))
      ∧ ((transact calls false).run d).2.store.tables = d.store.tables
      ∧ (d.store.tables.Filled →
          ((∃ answer ∈ answers, Call.IsDatabaseError answer) → ∀ commit,
            ((transact calls commit).run d).2.store.tables = d.store.tables)
          ∧ answers.Pairwise fun earlier later =>
            Call.IsDatabaseError earlier → ∃ fault, later = .error fault) := by
  intro calls answers
  have refused : d.store.tables.Filled → ∀ fault, .error fault ∈ answers →
      fault.category = .database → fault.spoils = true :=
    fun filled fault member => Transaction.spoils_of_answer filled d.now ts member
  refine ⟨answers_transact reachable calls, fun _ _ _ => Transaction.call_of_rule, ?_,
    tables_transact_of_undone calls rfl, fun filled => ⟨?_, ?_⟩⟩
  · intro untroubled
    have sound : ((Transaction.start d.store).calls d.now calls).2.spoiled = false := by
      by_contra spoiled
      rw [Bool.not_eq_false, Transaction.spoiled_iff] at spoiled
      obtain ⟨fault, member, refusal⟩ := spoiled
      exact untroubled _ member (Fault.category_of_spoils refusal)
    obtain ⟨store, agree⟩ := calls_agree reachable ts sound
    exact ⟨(store_transact_of_sound reachable calls sound).trans store, agree⟩
  · intro troubled commit
    obtain ⟨answer, member, trouble⟩ := troubled
    have spoiled : ((Transaction.start d.store).calls d.now calls).2.spoiled = true := by
      cases answer with
      | ok => exact trouble.elim
      | error fault =>
          exact (Transaction.spoiled_iff ..).mpr ⟨fault, member, refused filled fault member trouble⟩
    exact tables_transact_of_undone calls (by simp [spoiled])
  · refine (Transaction.pairwise_of_refusal d.store d.now ts).imp_of_mem ?_
    intro earlier later member _ fails trouble
    cases earlier with
    | ok => exact trouble.elim
    | error fault => exact fails ⟨fault, rfl, refused filled fault member trouble⟩

/-- A pet owner with a pet is let go after the pet, between transitions that rules forbid. With a
reason that the log cannot hold, the same transaction leaves everything as it was.
-/
theorem transaction_composes_of_owner
    : let d := (fresh .epoch).after [
        .create .petOwner (PetOwnerContent.ofName "Ann"),
        .create .pet (PetContent.ofOwner 1 "Rex")]
      let ts (reason : String) : List Transition := [
        ⟨.archive, .petOwner, 1, none, reason⟩,
        ⟨.archive, .pet, 1, some 7, reason⟩,
        ⟨.archive, .petOwner, 1, none, reason⟩,
        ⟨.restore, .pet, 1, none, reason⟩,
        ⟨.permanentDelete, .pet, 1, none, reason⟩]
      let calls (reason : String) := (ts reason).map Call.transition
      ((transact (calls "moved away") true).run d).2.store
        = (d.after ((ts "moved away").map .transition)).store
      ∧ ((transact (calls "moved away") true).run d).2.store.tables.IsArchived .petOwner 1
      ∧ ((transact (calls "\x00") true).run d).2.store.tables = d.store.tables := by
  intro d ts calls
  refine ⟨?_, by decide +kernel, ?_⟩
  · have composes := transaction_composes d (by decide +kernel) (ts "moved away")
    exact (composes.2.2.1 (by decide +kernel)).1
  · have composes := transaction_composes d (by decide +kernel) (ts "\x00")
    have filled : d.store.tables.Filled := filled_after .epoch _
    exact (composes.2.2.2.2 filled).1 (by decide +kernel) true

end Database

end AdoptionRecords
