import AdoptionRecords.Retention.Worker

/-! The timetable of a worker: when its passes start if nobody stops it. The passes that it makes until
it is stopped are those of the timetable that start before, and the one on its start.
-/

namespace AdoptionRecords.Retention.Worker

/-- The pass with a given number, counted from zero, if the first starts at a given second and each of
the others an interval after the end of the one before.
-/
def following (s : Settings) (start : Nat) (script : List Pass) : Nat → Made
  | 0 => { start, pass := script.getD 0 .idle }
  | number + 1 =>
      { start := (following s start script number).finish + s.interval
        pass := script.getD (number + 1) .idle }

/-- The second at which the first pass starts: at once, or after an interval. -/
def Settings.firstStart (s : Settings) : Nat :=
  if s.runOnStart then 0 else s.interval

/-- The pass with a given number of a worker that nobody stops. -/
def scheduled (s : Settings) (script : List Pass) (number : Nat) : Made :=
  following s s.firstStart script number

/-- Whether a worker that is stopped at a given second makes the pass with a given number. -/
def MakesPass (s : Settings) (script : List Pass) (stopAt number : Nat) : Prop :=
  (number = 0 ∧ s.runOnStart = true) ∨ (scheduled s script number).start < stopAt

variable {s : Settings} {stopAt start number : Nat} {script : List Pass} {made : Made}

theorem headD_eq_getD (script : List Pass) : script.headD .idle = script.getD 0 .idle := by
  cases script <;> rfl

theorem getD_tail (script : List Pass) (number : Nat)
    : script.tail.getD number .idle = script.getD (number + 1) .idle := by
  cases script <;> rfl

/-- What follows the first pass is what follows from an interval after its end. -/
theorem following_succ (s : Settings) (start : Nat) (script : List Pass) (number : Nat)
    : following s start script (number + 1)
      = following s ((following s start script 0).finish + s.interval) script.tail number := by
  induction number with
  | zero => simp only [following, getD_tail]
  | succ number ih =>
      rw [following.eq_2 s start, ih, following.eq_2, getD_tail]

/-- Passes do not start before the second that they follow. -/
theorem le_start_following (s : Settings) (start : Nat) (script : List Pass) (number : Nat)
    : start ≤ (following s start script number).start := by
  induction number with
  | zero => exact Nat.le_refl _
  | succ number ih =>
      rw [following]
      simp only [Made.finish]
      omega

/-- The passes made from a second on are those following it that start before the worker is stopped,
by induction on the passes.
-/
theorem getElem?_passesFrom_eq_some_iff
    : (passesFrom s stopAt start script)[number]? = some made
      ↔ (following s start script number).start < stopAt
        ∧ following s start script number = made := by
  fun_induction passesFrom s stopAt start script generalizing number with
  | case1 start script early first =>
      rename_i ih
      have same : first = following s start script 0 := by
        rw [following, ← headD_eq_getD]
      cases number with
      | zero =>
          rw [List.getElem?_cons_zero, Option.some.injEq, same]
          exact ⟨fun h => ⟨early, h⟩, And.right⟩
      | succ number =>
          rw [List.getElem?_cons_succ, ih, following_succ, same]
  | case2 start script late =>
      have later := le_start_following s start script number
      rw [List.getElem?_nil]
      exact ⟨nofun, fun h => absurd h.1 (by omega)⟩

/-- The passes that a worker makes until it is stopped are those of its timetable, in order, as far as
they start before; and the first if it runs on its start.
-/
theorem getElem?_passes_eq_some_iff
    : (passes s stopAt script)[number]? = some made
      ↔ MakesPass s script stopAt number ∧ scheduled s script number = made := by
  unfold passes MakesPass scheduled Settings.firstStart
  by_cases atOnce : s.runOnStart = true
  · rw [if_pos atOnce, if_pos atOnce]
    cases number with
    | zero =>
        rw [List.getElem?_cons_zero, Option.some.injEq, following, headD_eq_getD]
        exact ⟨fun h => ⟨.inl ⟨rfl, atOnce⟩, h⟩, And.right⟩
    | succ number =>
        rw [List.getElem?_cons_succ, getElem?_passesFrom_eq_some_iff, following_succ,
          following.eq_1 s 0, headD_eq_getD]
        simp only [Nat.succ_ne_zero, false_and, false_or]
  · rw [if_neg atOnce, if_neg atOnce, getElem?_passesFrom_eq_some_iff]
    simp only [atOnce, Bool.false_eq_true, and_false, false_or]

/-- Each pass that a worker makes is one of its timetable. -/
theorem exists_scheduled (h : made ∈ passes s stopAt script)
    : ∃ number, scheduled s script number = made := by
  obtain ⟨number, found⟩ := List.getElem?_of_mem h
  exact ⟨number, (getElem?_passes_eq_some_iff.mp found).2⟩

end AdoptionRecords.Retention.Worker
