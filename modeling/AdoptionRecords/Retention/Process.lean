import AdoptionRecords.Fault
import AdoptionRecords.Retention.Worker

/-! A worker as it runs beside those who use it. It makes a pass, or sleeps and listens for the signal
to stop, or has ended. The signal comes through a channel that holds one at a time, so it may arrive
while a pass is under way; then it is heard when the pass has ended. At one second several steps may
be possible, and any of them may come first; time goes on when none is.
-/

namespace AdoptionRecords.Retention.Worker

/-- What a worker is doing: it makes a pass, or sleeps until a second and listens. -/
inductive Phase
  | passing (made : Made)
  | waiting (wake : Nat)
  | ended
  deriving DecidableEq, Repr

/-- A worker that was started, at some second: what it is doing, what the passes to come do, and whether
a signal is in its channel; the passes that it began, each with the actor that it was begun for; what
it told; and the answer to the call to stop it, once this was made.
-/
structure Process where
  clock : Nat
  phase : Phase
  script : List Pass
  signalled : Bool
  begun : List (Made × Option Int)
  told : List (Nat × Event)
  answer : Option (Except Fault Unit)

namespace Process

/-- Tells an event. -/
def tell (p : Process) (event : Event) : Process :=
  { p with told := p.told ++ [(p.clock, event)] }

/-- Begins the next pass for the actor of the worker. Passes beyond the script are idle. -/
def beginPass (s : Settings) (p : Process) : Process :=
  let made : Made := { start := p.clock, pass := p.script.headD .idle }
  { p with phase := .passing made, script := p.script.tail, begun := p.begun ++ [(made, s.actor)] }

/-- A worker that is not enabled: it has ended before it tells anything. -/
def disabled (script : List Pass) : Process where
  clock := 0
  phase := .ended
  script := script
  signalled := false
  begun := []
  told := []
  answer := none

/-- A worker when it is started. -/
def start (s : Settings) (script : List Pass) : Process :=
  if s.enabled then
    let p := (disabled script).tell .started
    if s.runOnStart then p.beginPass s else { p with phase := .waiting s.interval }
  else disabled script

/-- Calls a worker to stop, and yields the answer to the call. One that has ended listens no more, so
the call fails. If the channel is full the call has to wait, and there is no answer yet.
-/
def stop? (p : Process) : Option (Except Fault Unit × Process) :=
  if p.phase = .ended then some (.error .workerEnded, p)
  else if p.signalled then none
  else some (.ok (), { p with signalled := true })

/-- Whether something happens at the present second: the pass under way ends, the signal is heard, the
sleep is over, or the worker is called to stop.
-/
def IsDue (stopAt : Nat) (p : Process) : Prop :=
  (∃ made, p.phase = .passing made ∧ p.clock = made.finish)
  ∨ (∃ wake, p.phase = .waiting wake ∧ (p.signalled = true ∨ p.clock = wake))
  ∨ (p.clock = stopAt ∧ p.answer = none)

/-- One step of a worker that is called to stop at a given second. -/
inductive Step (s : Settings) (stopAt : Nat) : Process → Process → Prop
  | finish {p : Process} {made : Made} (passing : p.phase = .passing made)
    (due : p.clock = made.finish)
    : Step s stopAt p
        { p.tell (.ofPass made.pass) with phase := .waiting (p.clock + s.interval) }
  | wake {p : Process} (waiting : p.phase = .waiting p.clock) : Step s stopAt p (p.beginPass s)
  | hear {p : Process} {wake : Nat} (waiting : p.phase = .waiting wake)
    (signalled : p.signalled = true)
    : Step s stopAt p { p.tell .stopped with phase := .ended, signalled := false }
  | call {p q : Process} {answer : Except Fault Unit} (due : p.clock = stopAt)
    (uncalled : p.answer = none) (called : p.stop? = some (answer, q))
    : Step s stopAt p { q with answer := some answer }
  | tick {p : Process} (quiet : ¬ p.IsDue stopAt)
    : Step s stopAt p { p with clock := p.clock + 1 }

end Process

end AdoptionRecords.Retention.Worker
