import AdoptionRecords.Event
import AdoptionRecords.Json.Forms
import AdoptionRecords.Overview

/-! The JSON forms of what is only ever written: outcomes, events and their envelopes, and
overviews of the archive.
-/

namespace AdoptionRecords

/-- The JSON of the name of a kind. -/
def Kind.json (k : Kind) : Json :=
  .text k.name

/-- The JSON of a number that may be missing. -/
def Json.ofInt? (n : Option Int) : Json :=
  Json.ofOption .int n

/-- The JSON of an instant that may be missing. -/
def Json.ofInstant? (i : Option Calendar.Instant) : Json :=
  Json.ofOption (fun i => .text i.text) i

/-- The JSON of an outcome: its tag, and beside it the log entry or what went wrong. -/
def Outcome.json : Outcome → Json
  | completed entry => .object (("outcome", .text "completed") :: Form.logEntry.members entry)
  | notFound => .object [("outcome", .text "not_found")]
  | blocked reason => .object [("outcome", .text "blocked"), ("reason", .text reason)]
  | failed error => .object [("outcome", .text "failed"), ("error", .text error)]

namespace Event

/-- The members that tell which transition an event is about. -/
def transitionMembers (kind : Kind) (record : Int) (operation : Operation) (actor : Option Int)
    : List (String × Json) :=
  [("kind", kind.json), ("record_id", .int record), ("operation", .text operation.name),
    ("actor_id", Json.ofInt? actor)]

/-- The JSON of an event. -/
def json : Event → Json
  | transitionCompleted kind record operation actor number =>
      .object (("type", .text "TransitionCompleted") ::
        (transitionMembers kind record operation actor ++ [("log_id", .int number)]))
  | transitionRejected kind record operation actor detail =>
      .object (("type", .text "TransitionRejected") ::
        (transitionMembers kind record operation actor ++ [("detail", .text detail)]))
  | profileFlagged kind username =>
      .object [("type", .text "ProfileFlagged"), ("kind", kind.json),
        ("username", .text username)]
  | retentionCompleted report =>
      .object [("type", .text "RetentionCompleted"), ("report", Form.report.json report)]

end Event

/-- The JSON of an envelope; without an actor it has no member for one. -/
def Envelope.json (e : Envelope) : Json :=
  .object ([("event_type", .text e.topic), ("occurred_at", .text e.occurred.text)] ++
    e.actor.toList.map (fun actor => ("actor_id", .int actor)) ++ [("payload", e.event.json)])

/-- The JSON of statistics, the kinds in the order of their declaration. -/
def Statistics.json (s : Statistics) : Json :=
  .object [("counts", .object (Kind.declared.filterMap fun kind =>
    (s.counts kind).map fun count => (kind.name, .int count)))]

/-- The JSON of a summary. -/
def Summary.json (s : Summary) : Json :=
  .object [("kind", s.kind.json), ("count", .int s.count), ("oldest", Json.ofInstant? s.oldest),
    ("newest", Json.ofInstant? s.newest)]

end AdoptionRecords
