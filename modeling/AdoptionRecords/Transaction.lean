import AdoptionRecords.Flag
import AdoptionRecords.Transition

/-! A transaction that a caller holds open over several calls. A call that the store refuses
spoils it: no further statement is accepted, and committing it undoes it. The keys drawn in a
transaction stay drawn.
-/

namespace AdoptionRecords

open Calendar

/-- The calls that can be made in a transaction. -/
inductive Call
  | transition (transition : Transition)
  | record (transition : Transition)
  | flagProfiles (kind : Kind) (username : String)
  deriving DecidableEq, Repr

/-- What a call in a transaction yields. -/
inductive Call.Answer
  | entry (entry : LogEntry)
  | flagged (rows : Nat)
  deriving DecidableEq, Repr

/-- The work of a call. -/
def Call.work (now : Instant) : Call → Work Call.Answer
  | transition t => return .entry (← t.carryOut now)
  | record t => return .entry (← Log.record t now)
  | flagProfiles kind username =>
      match Profile.ofKind? kind with
      | some profile => return .flagged (← Flag.setProfiles profile username now)
      | none => throw (.noProfile kind)

/-- A call is refused without a statement when it asks for the profile of a kind without one. -/
def Call.refused? : Call → Option Fault
  | flagProfiles kind _ => if (Profile.ofKind? kind).isNone then some (.noProfile kind) else none
  | _ => none

/-- A transaction under way: the store as its calls left it, and whether it is spoiled. -/
structure Transaction where
  store : Store
  spoiled : Bool

namespace Transaction

/-- A transaction that starts from a store. -/
def start (store : Store) : Transaction where
  store := store
  spoiled := false

/-- Makes a call. One that the store refuses spoils the transaction; any other fault does not. -/
def call (t : Transaction) (now : Instant) (c : Call) : Except Fault Call.Answer × Transaction :=
  match c.refused? with
  -- Such a call makes no statement, so it is answered even in a spoiled transaction.
  | some fault => (.error fault, t)
  | none =>
      if t.spoiled then (.error (.database .transactionAborted), t)
      else
        match t.store.run (c.work now) with
        | (.ok answer, store) => (.ok answer, { t with store })
        | (.error fault, store) =>
            (.error fault, { store, spoiled := fault.spoils })

/-- Makes calls one after another. -/
def calls (t : Transaction) (now : Instant)
    : List Call → List (Except Fault Call.Answer) × Transaction
  | [] => ([], t)
  | c :: rest =>
      let (answer, next) := t.call now c
      let (answers, last) := next.calls now rest
      (answer :: answers, last)

/-- Ends a transaction. Its changes are kept if it is committed and not spoiled. -/
def finish (t : Transaction) (before : Store) (commit : Bool) : Store :=
  if commit && !t.spoiled then t.store
  else { before with sequences := t.store.sequences }

end Transaction

/-- Makes calls in one transaction and ends it. -/
def Store.transact (s : Store) (now : Instant) (cs : List Call) (commit : Bool)
    : List (Except Fault Call.Answer) × Store :=
  let (answers, t) := (Transaction.start s).calls now cs
  (answers, t.finish s commit)

end AdoptionRecords
