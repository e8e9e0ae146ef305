import AdoptionRecords.Retention.Policy
import AdoptionRecords.Text.Quoted

/-! The worker that repeats retention runs. It makes a pass, waits for the interval, makes the
next pass, and so on until it is stopped; a pass under way is finished first. A pass that breaks
down is reported and leaves the schedule as it is. Time is counted in seconds from the start.
-/

namespace AdoptionRecords.Retention.Worker

/-- How a worker works. The interval between passes is never zero. -/
structure Settings where
  enabled : Bool
  interval : Nat
  interval_pos : 0 < interval
  actor : Option Int
  runOnStart : Bool
  deriving DecidableEq, Repr

/-- The interval that a worker keeps when nobody chose one: a day. -/
def standardInterval : Nat :=
  86400

/-- A worker that starts with a pass and makes one every day. -/
def Settings.standard : Settings where
  enabled := true
  interval := standardInterval
  interval_pos := by decide
  actor := none
  runOnStart := true

/-- What a pass does: it yields a report after some time, or breaks down at once. -/
inductive Pass
  | report (report : Report) (seconds : Nat)
  | breakdown (message : String)
  deriving DecidableEq, Repr

namespace Pass

/-- A pass that finds nothing to do. -/
def idle : Pass :=
  report .zero 0

/-- How long a pass takes. -/
def duration : Pass → Nat
  | report _ seconds => seconds
  | breakdown _ => 0

end Pass

/-- What a worker tells of itself. -/
inductive Event
  | started
  | completed (report : Report)
  | failed (error : String)
  | stopped
  deriving DecidableEq, Repr

/-- What a worker tells at the end of a pass. -/
def Event.ofPass : Pass → Event
  | .report report _ => completed report
  | .breakdown message => failed ("task N panicked with message " ++ Text.inQuotes message)

/-- A pass that was made, with the second of its start. -/
structure Made where
  start : Nat
  pass : Pass
  deriving DecidableEq, Repr

/-- The second at which a pass ends. -/
def Made.finish (m : Made) : Nat :=
  m.start + m.pass.duration

/-- The passes that start at a given second or later, and before the worker is stopped. Passes
beyond the script are idle.
-/
def passesFrom (s : Settings) (stopAt start : Nat) (script : List Pass) : List Made :=
  if start < stopAt then
    -- The interval is waited for after a pass has ended, however long the pass took.
    let made : Made := { start, pass := script.headD .idle }
    made :: passesFrom s stopAt (made.finish + s.interval) script.tail
  else []
termination_by stopAt - start
decreasing_by
  have := s.interval_pos
  simp only [Made.finish]
  omega

/-- The passes that a worker makes until it is stopped. The first is made in any case if the
worker runs on its start.
-/
def passes (s : Settings) (stopAt : Nat) (script : List Pass) : List Made :=
  if s.runOnStart then
    -- The worker does not listen before its first pass has ended.
    let made : Made := { start := 0, pass := script.headD .idle }
    made :: passesFrom s stopAt (made.finish + s.interval) script.tail
  else passesFrom s stopAt s.interval script

/-- The second at which a worker stops: when it is told to, or when its last pass ends. -/
def stopTime (stopAt : Nat) (made : List Made) : Nat :=
  match made.getLast? with
  | some last => max stopAt last.finish
  | none => stopAt

/-- What a worker tells until it has stopped, each event with its second. A worker that is not
enabled tells nothing.
-/
def events (s : Settings) (stopAt : Nat) (script : List Pass) : List (Nat × Event) :=
  if s.enabled then
    let made := passes s stopAt script
    (0, .started) :: made.map (fun m => (m.finish, .ofPass m.pass)) ++
      [(stopTime stopAt made, .stopped)]
  else []

/-- The passes of an enabled worker; one that is not enabled makes none. -/
def passesMade (s : Settings) (stopAt : Nat) (script : List Pass) : List Made :=
  if s.enabled then passes s stopAt script else []

end AdoptionRecords.Retention.Worker
