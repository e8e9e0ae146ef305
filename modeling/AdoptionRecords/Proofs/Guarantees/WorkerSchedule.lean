import AdoptionRecords.Proofs.Retention.Timetable
import AdoptionRecords.Retention.Process
import Mathlib.Logic.Relation

/-! A worker keeps its schedule. However its steps come at one second, a worker that is stopped makes
the passes of its timetable that start before, tells the end of each at its second, and stops last.
What is left open is the case that it is stopped at the very second at which its sleep is over.
-/

namespace AdoptionRecords.Retention.Worker

-----------------------------------------------------------------------------------------
-- The runs of a worker
-----------------------------------------------------------------------------------------

/-- No sleep is over at the second at which the worker is stopped. -/
def Apart (s : Settings) (script : List Pass) (stopAt : Nat) : Prop :=
  ∀ number, (number = 0 ∧ s.runOnStart = true) ∨ (scheduled s script number).start ≠ stopAt

/-- What a worker has to tell of a pass, with the second at which the pass is over: its report when it
has taken its time, or at once the message with which it broke down.
-/
def Made.account (m : Made) : Nat × Event :=
  match m.pass with
  | .report report seconds => (m.start + seconds, .completed report)
  | .breakdown message =>
      (m.start, .failed ("task N panicked with message " ++ Text.inQuotes message))

/-- A worker tells of a pass what it has to, when the pass ends. -/
theorem Made.account_eq (m : Made) : m.account = (m.finish, .ofPass m.pass) := by
  obtain ⟨start, pass⟩ := m
  cases pass <;> rfl

namespace Process

/-- The steps of a worker that is called to stop at a given second, one after another. -/
abbrev Runs (s : Settings) (stopAt : Nat) : Process → Process → Prop :=
  Relation.ReflTransGen (Step s stopAt)

/-- A worker that ends whatever its steps are: it has ended, or some step is possible and after each
that is possible it ends.
-/
inductive Ends (s : Settings) (stopAt : Nat) : Process → Prop
  | now {p : Process} (ended : p.phase = .ended) : Ends s stopAt p
  | later {p : Process} (able : ∃ q, Step s stopAt p q)
    (next : ∀ q, Step s stopAt p q → Ends s stopAt q)
    : Ends s stopAt p

/-- The call to stop: it is made at its second, and it succeeds. The signal stays in the channel until
the worker has ended.
-/
inductive Heeds (stopAt : Nat) (p : Process) : Prop
  | before (uncalled : p.answer = none) (silent : p.signalled = false) (early : p.clock ≤ stopAt)
  | after (called : p.answer = some (.ok ())) (signalled : p.signalled = true)
    (late : stopAt ≤ p.clock)

theorem Heeds.silent {stopAt : Nat} {p : Process} (h : p.Heeds stopAt) (uncalled : p.answer = none)
    : p.signalled = false := by
  cases h with
  | before _ silent => exact silent
  | after called => cases uncalled.symm.trans called

/-- A worker that keeps its schedule: the passes that it has done, the one under way and those to come
are the ones to be made; it has told of those that it has done; and it is never behind. A worker that
waits when it is called hears the signal at once.
-/
inductive Keeps (s : Settings) (stopAt : Nat) (script : List Pass) (p : Process) : Prop
  | passing (done : List Made) {made : Made} (phase : p.phase = .passing made)
    (whole : passes s stopAt script
      = done ++ made :: passesFrom s stopAt (made.finish + s.interval) p.script)
    (begun : p.begun = (done ++ [made]).map (·, s.actor))
    (told : p.told = (0, .started) :: done.map Made.account)
    (heeds : p.Heeds stopAt) (timely : p.clock ≤ made.finish)
  | waiting (done : List Made) {wake : Nat} (phase : p.phase = .waiting wake)
    (whole : passes s stopAt script = done ++ passesFrom s stopAt wake p.script)
    (begun : p.begun = done.map (·, s.actor))
    (told : p.told = (0, .started) :: done.map Made.account)
    (heeds : p.Heeds stopAt) (timely : p.clock ≤ wake) (apart : stopTime stopAt done ≠ wake)
    (prompt : stopTime stopAt done = if p.signalled then p.clock else stopAt)
  | ended (phase : p.phase = .ended)
    (begun : p.begun = (passes s stopAt script).map (·, s.actor))
    (told : p.told = (0, .started) :: (passes s stopAt script).map Made.account
      ++ [(stopTime stopAt (passes s stopAt script), .stopped)])
    (called : p.answer = some (.ok ()))

end Process

section Kept

variable {s : Settings} {stopAt : Nat} {script : List Pass} {p q : Process}

/-- The events of a worker that is enabled: that it starts, an account of each pass, and that it stops. -/
theorem events_of_enabled (enabled : s.enabled = true)
    : events s stopAt script
      = (0, .started) :: (passesMade s stopAt script).map Made.account
        ++ [(stopTime stopAt (passesMade s stopAt script), .stopped)] := by
  have account : Made.account = fun m => (m.finish, .ofPass m.pass) := funext Made.account_eq
  rw [events, passesMade, if_pos enabled, if_pos enabled, account]

theorem stopTime_append_singleton (done : List Made) (made : Made)
    : stopTime stopAt (done ++ [made]) = max stopAt made.finish := by
  rw [stopTime, List.getLast?_concat]

/-- The sleep after a pass that is made is over at another second than the one of the stop. -/
theorem Apart.finish_ne (apart : Apart s script stopAt) {made : Made}
    (h : made ∈ passes s stopAt script)
    : made.finish + s.interval ≠ stopAt := by
  obtain ⟨number, rfl⟩ := exists_scheduled h
  exact (apart (number + 1)).resolve_left (fun first => nomatch first.1)

namespace Process

-----------------------------------------------------------------------------------------
-- One step
-----------------------------------------------------------------------------------------

theorem Keeps.start (enabled : s.enabled = true) (apart : Apart s script stopAt)
    : (start s script).Keeps s stopAt script := by
  unfold Process.start
  rw [if_pos enabled]
  have heeds {p : Process} (uncalled : p.answer = none) (silent : p.signalled = false)
      (zero : p.clock = 0) : p.Heeds stopAt :=
    .before uncalled silent (zero ▸ Nat.zero_le _)
  by_cases atOnce : s.runOnStart = true
  · rw [if_pos atOnce]
    refine .passing [] rfl ?_ rfl rfl (heeds rfl rfl rfl) (Nat.zero_le _)
    rw [passes, if_pos atOnce]
    rfl
  · rw [if_neg atOnce]
    refine .waiting [] rfl ?_ rfl rfl (heeds rfl rfl rfl) (Nat.zero_le _) ?_ rfl
    · rw [passes, if_neg atOnce]
      rfl
    · have first := (apart 0).resolve_left (fun h => atOnce h.2)
      rw [scheduled, Settings.firstStart, if_neg atOnce, following] at first
      exact first.symm

/-- The end of a pass is told, and the worker sleeps from then on. -/
theorem Keeps.finish (apart : Apart s script stopAt) (h : p.Keeps s stopAt script) {made : Made}
    (phase : p.phase = .passing made) (due : p.clock = made.finish)
    : { p.tell (.ofPass made.pass) with phase := .waiting (p.clock + s.interval) }.Keeps s stopAt
        script := by
  cases h with
  | waiting _ other => cases phase.symm.trans other
  | ended other => cases phase.symm.trans other
  | passing done other whole begun told heeds =>
      cases phase.symm.trans other
      have ne := apart.finish_ne (whole ▸ List.mem_append_right done List.mem_cons_self)
      have pos := s.interval_pos
      refine .waiting (done ++ [made]) rfl ?_ begun ?_ ?_ (Nat.le_add_right _ _) ?_ ?_
      · rw [whole, due, List.append_assoc, List.singleton_append]
        rfl
      · rw [tell, told, due, List.map_append, List.cons_append, List.map_singleton,
          Made.account_eq]
      · cases heeds with
        | before uncalled silent early => exact .before uncalled silent early
        | after called signalled late => exact .after called signalled late
      · rw [stopTime_append_singleton]
        omega
      · rw [stopTime_append_singleton, ← due]
        cases heeds with
        | before _ silent early => simp only [tell, silent]; exact Nat.max_eq_left early
        | after _ signalled late => simp only [tell, signalled]; exact Nat.max_eq_right late

/-- A worker whose sleep is over was not called yet. -/
theorem Keeps.soon (h : p.Keeps s stopAt script) (phase : p.phase = .waiting p.clock)
    : p.answer = none ∧ p.signalled = false ∧ p.clock < stopAt := by
  cases h with
  | passing _ other => cases phase.symm.trans other
  | ended other => cases phase.symm.trans other
  | waiting _ other _ _ _ heeds _ apart prompt =>
      cases phase.symm.trans other
      cases heeds with
      | after _ signalled => rw [signalled, if_pos rfl] at prompt; exact absurd prompt apart
      | before uncalled silent early =>
          rw [silent, if_neg Bool.false_ne_true] at prompt
          exact ⟨uncalled, silent, Nat.lt_of_le_of_ne early (prompt ▸ apart.symm)⟩

/-- A sleep that is over is followed by a pass. -/
theorem Keeps.wake (h : p.Keeps s stopAt script) (phase : p.phase = .waiting p.clock)
    : (p.beginPass s).Keeps s stopAt script := by
  obtain ⟨uncalled, silent, soon⟩ := h.soon phase
  cases h with
  | passing _ other => cases phase.symm.trans other
  | ended other => cases phase.symm.trans other
  | waiting done other whole begun told =>
      cases phase.symm.trans other
      refine .passing done rfl ?_ ?_ told (.before uncalled silent (Nat.le_of_lt soon))
        (Nat.le_add_right _ _)
      · rw [whole, passesFrom, if_pos soon]
        rfl
      · rw [beginPass, begun, List.map_append, List.map_singleton]

/-- When the signal is heard, no pass is to come. -/
theorem Keeps.hear (h : p.Keeps s stopAt script) {wake : Nat} (phase : p.phase = .waiting wake)
    (signalled : p.signalled = true)
    : { p.tell .stopped with phase := .ended, signalled := false }.Keeps s stopAt script := by
  cases h with
  | passing _ other => cases phase.symm.trans other
  | ended other => cases phase.symm.trans other
  | waiting done other whole begun told heeds timely _ prompt =>
      cases phase.symm.trans other
      cases heeds with
      | before _ silent => cases silent.symm.trans signalled
      | after called _ late =>
          rw [signalled, if_pos rfl] at prompt
          rw [passesFrom, if_neg (by omega), List.append_nil] at whole
          refine .ended rfl (whole ▸ begun) ?_ called
          rw [whole, prompt, tell, told]

theorem stop?_of_listening (listening : p.phase ≠ .ended) (silent : p.signalled = false)
    : p.stop? = some (.ok (), { p with signalled := true }) := by
  rw [stop?, if_neg listening, silent, if_neg Bool.false_ne_true]

theorem Keeps.call (h : p.Keeps s stopAt script) (due : p.clock = stopAt)
    (uncalled : p.answer = none) {answer : Except Fault Unit} (called : p.stop? = some (answer, q))
    : { q with answer := some answer }.Keeps s stopAt script := by
  cases h with
  | ended _ _ _ before => cases uncalled.symm.trans before
  | passing done phase whole begun told heeds timely =>
      cases heeds with
      | after before => cases uncalled.symm.trans before
      | before _ silent =>
          cases (stop?_of_listening (phase ▸ nofun) silent).symm.trans called
          exact .passing done phase whole begun told (.after rfl rfl (Nat.le_of_eq due.symm)) timely
  | waiting done phase whole begun told heeds timely apart prompt =>
      cases heeds with
      | after before => cases uncalled.symm.trans before
      | before _ silent =>
          cases (stop?_of_listening (phase ▸ nofun) silent).symm.trans called
          rw [silent, if_neg Bool.false_ne_true] at prompt
          refine .waiting done phase whole begun told
            (.after rfl rfl (Nat.le_of_eq due.symm)) timely apart ?_
          rw [if_pos rfl, prompt, due]

/-- Time goes on past nothing that the schedule asks for. -/
theorem Keeps.tick (h : p.Keeps s stopAt script) (quiet : ¬ p.IsDue stopAt)
    : { p with clock := p.clock + 1 }.Keeps s stopAt script := by
  simp only [IsDue, not_or, not_exists, not_and] at quiet
  obtain ⟨unfinished, unwoken, later⟩ := quiet
  have onward (heeds : p.Heeds stopAt) : { p with clock := p.clock + 1 }.Heeds stopAt := by
    cases heeds with
    | after called signalled late => exact .after called signalled (Nat.le_succ_of_le late)
    | before uncalled silent early =>
        have ne : p.clock ≠ stopAt := fun due => later due uncalled
        exact .before uncalled silent (Nat.succ_le_of_lt (Nat.lt_of_le_of_ne early ne))
  cases h with
  | ended phase begun told called => exact .ended phase begun told called
  | passing done phase whole begun told heeds timely =>
      have ne := unfinished _ phase
      exact .passing done phase whole begun told (onward heeds)
        (Nat.succ_le_of_lt (Nat.lt_of_le_of_ne timely ne))
  | waiting done phase whole begun told heeds timely apart prompt =>
      obtain ⟨silent, asleep⟩ := unwoken _ phase
      rw [if_neg silent] at prompt
      refine .waiting done phase whole begun told (onward heeds)
        (Nat.succ_le_of_lt (Nat.lt_of_le_of_ne timely asleep)) apart ?_
      rw [if_neg silent, prompt]

/-- A step keeps the schedule. -/
theorem Keeps.step (apart : Apart s script stopAt) (h : p.Keeps s stopAt script)
    (step : Step s stopAt p q)
    : q.Keeps s stopAt script := by
  cases step with
  | finish passing due => exact h.finish apart passing due
  | wake waiting => exact h.wake waiting
  | hear waiting signalled => exact h.hear waiting signalled
  | call due uncalled called => exact h.call due uncalled called
  | tick quiet => exact h.tick quiet

-----------------------------------------------------------------------------------------
-- A whole run
-----------------------------------------------------------------------------------------

/-- A run keeps the schedule, by induction on its steps. -/
theorem Keeps.of_runs (enabled : s.enabled = true) (apart : Apart s script stopAt)
    (runs : Runs s stopAt (Process.start s script) p)
    : p.Keeps s stopAt script := by
  induction runs with
  | refl => exact .start enabled apart
  | tail _ step ih => exact ih.step apart step

/-- What a worker told is a part of what it tells until it has stopped, from the start. -/
theorem Keeps.told_prefix (enabled : s.enabled = true) (h : p.Keeps s stopAt script)
    : p.told <+: events s stopAt script := by
  rw [events_of_enabled enabled, passesMade, if_pos enabled]
  have toldOf {done more : List Made} (whole : passes s stopAt script = done ++ more)
      (told : p.told = (0, .started) :: done.map Made.account)
      : p.told <+: (0, .started) :: (passes s stopAt script).map Made.account
        ++ [(stopTime stopAt (passes s stopAt script), .stopped)] := by
    rw [told, whole, List.map_append, ← List.cons_append, List.append_assoc]
    exact List.prefix_append _ _
  cases h with
  | passing _ _ whole _ told => exact toldOf whole told
  | waiting _ _ whole _ told => exact toldOf whole told
  | ended _ _ told => exact told ▸ List.prefix_refl _

-----------------------------------------------------------------------------------------
-- The end of a run
-----------------------------------------------------------------------------------------

/-- The passes to come until the worker is stopped. -/
def toCome (s : Settings) (stopAt : Nat) (p : Process) : List Made :=
  match p.phase with
  | .passing made => passesFrom s stopAt (made.finish + s.interval) p.script
  | .waiting wake => passesFrom s stopAt wake p.script
  | .ended => []

/-- What is left of the present round: to finish the pass, to wait, and to be called. -/
def duties (p : Process) : Nat :=
  let round := match p.phase with
    | .passing _ => 2
    | .waiting _ => 1
    | .ended => 0
  round + if p.answer.isNone then 1 else 0

/-- The seconds until the pass or the sleep is over. -/
def secondsLeft (p : Process) : Nat :=
  match p.phase with
  | .passing made => made.finish - p.clock
  | .waiting wake => wake - p.clock
  | .ended => 0

/-- The distance of a worker from its end: passes to come count most, and seconds least. -/
def distance (s : Settings) (stopAt : Nat) (p : Process) : Nat × Nat × Nat :=
  ((p.toCome s stopAt).length, p.duties, p.secondsLeft)

theorem Keeps.silent (h : p.Keeps s stopAt script) (ongoing : p.phase ≠ .ended)
    (uncalled : p.answer = none)
    : p.signalled = false := by
  cases h with
  | passing _ _ _ _ _ heeds => exact heeds.silent uncalled
  | waiting _ _ _ _ _ heeds => exact heeds.silent uncalled
  | ended finished => exact absurd finished ongoing

/-- As long as a worker has not ended, some step is possible. -/
theorem Keeps.exists_step (h : p.Keeps s stopAt script) (ongoing : p.phase ≠ .ended)
    : ∃ q, Step s stopAt p q := by
  by_cases due : p.IsDue stopAt
  · obtain ⟨made, passing, finished⟩ | ⟨wake, waiting, signalled | finished⟩ | ⟨due, uncalled⟩ := due
    · exact ⟨_, .finish passing finished⟩
    · exact ⟨_, .hear waiting signalled⟩
    · exact ⟨_, .wake (finished ▸ waiting)⟩
    · exact ⟨_, .call due uncalled (stop?_of_listening ongoing (h.silent ongoing uncalled))⟩
  · exact ⟨_, .tick due⟩

theorem Keeps.secondsLeft_tick (h : p.Keeps s stopAt script) (ongoing : p.phase ≠ .ended)
    (quiet : ¬ p.IsDue stopAt)
    : { p with clock := p.clock + 1 }.secondsLeft < p.secondsLeft := by
  simp only [IsDue, not_or, not_exists, not_and] at quiet
  obtain ⟨unfinished, unwoken, -⟩ := quiet
  cases h with
  | ended finished => exact absurd finished ongoing
  | passing _ phase _ _ _ _ timely =>
      have ne := unfinished _ phase
      simp only [secondsLeft, phase]
      omega
  | waiting _ phase _ _ _ _ timely =>
      have ne := (unwoken _ phase).2
      simp only [secondsLeft, phase]
      omega

/-- Each step brings a worker nearer to its end. -/
theorem Keeps.nearer (h : p.Keeps s stopAt script) (ongoing : p.phase ≠ .ended)
    (step : Step s stopAt p q)
    : Prod.Lex (· < ·) (Prod.Lex (· < ·) (· < ·)) (q.distance s stopAt) (p.distance s stopAt) := by
  cases step with
  | finish passing due =>
      refine .right' _ (Nat.le_of_eq ?_) (.left _ _ ?_)
      · simp only [toCome, passing, tell, due]
      · simp only [duties, passing, tell]
        omega
  | wake waiting =>
      have soon := (h.soon waiting).2.2
      refine .left _ _ ?_
      simp only [toCome, waiting]
      rw [passesFrom.eq_1 s stopAt p.clock, if_pos soon]
      exact Nat.lt_succ_self _
  | hear waiting =>
      refine .right' _ (Nat.zero_le _) (.left _ _ ?_)
      simp only [duties, waiting, tell]
      omega
  | call due uncalled called =>
      cases (stop?_of_listening ongoing (h.silent ongoing uncalled)).symm.trans called
      refine .right _ (.left _ _ ?_)
      simp only [duties, uncalled, Option.isNone_none, Option.isNone_some]
      exact Nat.lt_succ_self _
  | tick quiet => exact .right _ (.right _ (h.secondsLeft_tick ongoing quiet))

/-- A worker that keeps its schedule ends, by induction on its distance from the end. -/
theorem Keeps.ends {p : Process} (apart : Apart s script stopAt) (h : p.Keeps s stopAt script)
    : p.Ends s stopAt := by
  by_cases finished : p.phase = .ended
  · exact .now finished
  · exact .later (h.exists_step finished) (fun q step => (h.step apart step).ends apart)
termination_by p.distance s stopAt
decreasing_by exact h.nearer finished step

-----------------------------------------------------------------------------------------
-- The schedule
-----------------------------------------------------------------------------------------

/-- What a worker leaves that has ended after some passes: it told that it started, of each pass, and at
last that it stopped; each pass was for its actor; the call to stop it succeeded, and another fails.
-/
structure Left (s : Settings) (stopAt : Nat) (made : List Made) (p : Process) : Prop where
  told : p.told = (0, .started) :: made.map Made.account
    ++ [(stopTime stopAt made, .stopped)]
  begun : p.begun = made.map (·, s.actor)
  succeeded : p.answer = some (.ok ())
  deaf : ∃ fault, p.stop? = some (.error fault, p) ∧ fault.category = .internal

theorem Keeps.left (enabled : s.enabled = true) (h : p.Keeps s stopAt script)
    (finished : p.phase = .ended)
    : p.Left s stopAt (passesMade s stopAt script) := by
  rw [passesMade, if_pos enabled]
  cases h with
  | passing _ other => cases finished.symm.trans other
  | waiting _ other => cases finished.symm.trans other
  | ended _ begun told called =>
      exact ⟨told, begun, called, .workerEnded, by rw [stop?, if_pos finished], rfl⟩

/-- A worker that is not enabled tells nothing and makes no pass, by induction on its steps. -/
theorem idle_of_disabled (disabled : s.enabled = false)
    (runs : Runs s stopAt (Process.start s script) p)
    : p.phase = .ended ∧ p.told = [] ∧ p.begun = [] := by
  induction runs with
  | refl =>
      rw [Process.start, disabled, if_neg Bool.false_ne_true]
      exact ⟨rfl, rfl, rfl⟩
  | tail _ step ih =>
      obtain ⟨ended, told, begun⟩ := ih
      cases step with
      | finish passing => cases ended.symm.trans passing
      | wake waiting => cases ended.symm.trans waiting
      | hear waiting => cases ended.symm.trans waiting
      | tick => exact ⟨ended, told, begun⟩
      | call _ _ called =>
          rw [stop?, if_pos ended] at called
          cases called
          exact ⟨ended, told, begun⟩

end Process

end Kept

/-- The schedule of a worker, for any settings and passes, and any second at which it is stopped. The
passes made are those of the timetable that start before, and the first if the worker runs on its
start. The events of a worker are its start, for each pass the report or the breakdown, and its stop. If
no sleep is over at that very second, each run of the worker comes to its end, tells nothing beyond its
events on the way, and leaves what it has to. A worker that is not enabled does nothing.
-/
theorem schedule_kept (s : Settings) (stopAt : Nat) (script : List Pass)
    : (∀ number made, (passesMade s stopAt script)[number]? = some made
        ↔ s.enabled = true ∧ MakesPass s script stopAt number
          ∧ scheduled s script number = made)
      ∧ (s.enabled = true → events s stopAt script
          = (0, .started) :: (passesMade s stopAt script).map Made.account
            ++ [(stopTime stopAt (passesMade s stopAt script), .stopped)])
      ∧ (s.enabled = true → Apart s script stopAt →
          (Process.start s script).Ends s stopAt
          ∧ ∀ p, Process.Runs s stopAt (.start s script) p →
            p.told <+: events s stopAt script
            ∧ (p.phase = .ended → p.Left s stopAt (passesMade s stopAt script)))
      ∧ (s.enabled = false → events s stopAt script = []
          ∧ ∀ p, Process.Runs s stopAt (.start s script) p → p.told = [] ∧ p.begun = []) := by
  refine ⟨?_, events_of_enabled, ?_, ?_⟩
  · intro number made
    rw [passesMade]
    by_cases enabled : s.enabled = true
    · rw [if_pos enabled, getElem?_passes_eq_some_iff, and_iff_right enabled]
    · rw [if_neg enabled, List.getElem?_nil]
      exact ⟨nofun, fun h => absurd h.1 enabled⟩
  · intro enabled apart
    refine ⟨(Process.Keeps.start enabled apart).ends apart, ?_⟩
    intro p runs
    have keeps : p.Keeps s stopAt script := .of_runs enabled apart runs
    exact ⟨keeps.told_prefix enabled, keeps.left enabled⟩
  · intro disabled
    refine ⟨by rw [events, disabled, if_neg Bool.false_ne_true], ?_⟩
    intro p runs
    exact (Process.idle_of_disabled disabled runs).2

/-- A worker with an interval of two seconds breaks down on its start. Its next pass, from the second
second to the seventh, is under way when the worker is stopped at the sixth.
-/
theorem schedule_kept_of_breakdown
    : let s : Settings := ⟨true, 2, by decide, some 7, true⟩
      let script := [.breakdown "out of reach", .report .zero 5]
      Apart s script 6
      ∧ (Process.start s script).Ends s 6
      ∧ ∀ p, Process.Runs s 6 (.start s script) p → p.phase = .ended →
          p.told = [(0, .started),
            (0, .failed "task N panicked with message \"out of reach\""), (7, .completed .zero),
            (7, .stopped)] := by
  intro s script
  have apart : Apart s script 6 := by
    intro number
    match number with
    | 0 => exact .inl ⟨rfl, rfl⟩
    | 1 => exact .inr (by decide)
    | later + 2 =>
        have late : 9 ≤ (scheduled s script (later + 2)).start := by
          rw [scheduled, following_succ, following_succ]
          exact le_start_following s 9 [] later
        exact .inr (by omega)
  have made : passesMade s 6 script = [⟨0, .breakdown "out of reach"⟩, ⟨2, .report .zero 5⟩] := by
    simp [s, script, passesMade, passes, passesFrom, Made.finish, Pass.duration]
  obtain ⟨ends, runs⟩ := (schedule_kept s 6 script).2.2.1 rfl apart
  refine ⟨apart, ends, ?_⟩
  intro p run finished
  have left := (runs p run).2 finished
  rw [made] at left
  exact left.told.trans (by decide +kernel)

end AdoptionRecords.Retention.Worker
