import AdoptionRecords.Transition
import AdoptionRecords.Retention.Policy

/-! Events: what the library did, or refused to do, told to whoever listens. An envelope adds the
topic of an event, the instant at which it occurred and who acted.
-/

namespace AdoptionRecords

open Calendar

/-- What can be announced. -/
inductive Event
  | transitionCompleted (kind : Kind) (record : Int) (operation : Operation) (actor : Option Int)
      (number : Int)
  | transitionRejected (kind : Kind) (record : Int) (operation : Operation) (actor : Option Int)
      (detail : String)
  | profileFlagged (kind : Kind) (username : String)
  | retentionCompleted (report : Retention.Report)
  deriving DecidableEq, Repr

namespace Event

/-- The topic of an event. -/
def topic : Event → String
  | transitionCompleted _ _ operation _ _ => operation.topic ++ ".completed"
  | transitionRejected _ _ operation _ _ => operation.topic ++ ".rejected"
  | profileFlagged .. => "profile.flagged"
  | retentionCompleted _ => "retention.completed"

/-- Who acted in an event; nobody if it happened by itself. -/
def actor : Event → Option Int
  | transitionCompleted _ _ _ actor _ => actor
  | transitionRejected _ _ _ actor _ => actor
  | profileFlagged .. => none
  | retentionCompleted _ => none

/-- The event that tells of the outcome of a transition. -/
def ofOutcome (t : Transition) : Outcome → Event
  | .completed entry => transitionCompleted t.kind t.key t.operation t.actor entry.number
  | other => transitionRejected t.kind t.key t.operation t.actor other.describe

end Event

/-- An event with its topic, its instant and its actor. -/
structure Envelope where
  topic : String
  occurred : Instant
  actor : Option Int
  event : Event
  deriving DecidableEq, Repr

/-- The envelope of an event that occurs now. -/
def Envelope.enclose (now : Instant) (event : Event) : Envelope where
  topic := event.topic
  occurred := now
  actor := event.actor
  event := event

end AdoptionRecords
