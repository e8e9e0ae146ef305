import AdoptionRecords.Settings
import AdoptionRecords.Proofs.Reading.Numerals
import AdoptionRecords.Proofs.Retention.Sparing

/-! Settings that are taken from the environment. A variable sets a number if its text stands for one
in the range of the setting, and is passed over otherwise; the number is then kept within bounds. So
no texts whatever lead to a pool without connections, to a worker without a pause, or to a policy
that archives what is dated today or later.
-/

namespace AdoptionRecords

open Calendar Retention Text

-----------------------------------------------------------------------------------------
-- Numbers in variables
-----------------------------------------------------------------------------------------

/-- The whole numbers that a setting can have: those between two bounds, with or without minus as a
sign.
-/
structure NumberRange where
  signed : Bool
  least : Int
  greatest : Int

namespace NumberRange

/-- Unsigned numbers of 32 bits. -/
def unsigned32 : NumberRange :=
  ⟨false, 0, 2 ^ 32 - 1⟩

/-- Unsigned numbers of 64 bits. -/
def unsigned64 : NumberRange :=
  ⟨false, 0, 2 ^ 64 - 1⟩

/-- Signed numbers of 32 bits. -/
def signed32 : NumberRange :=
  ⟨true, -2 ^ 31, 2 ^ 31 - 1⟩

/-- Numbers of days: the signed numbers of 64 bits that are not negative. -/
def days : NumberRange :=
  ⟨true, 0, 2 ^ 63 - 1⟩

end NumberRange

namespace Environment

/-- (env.Gives name range n) holds if the text of a variable stands for the number n, and n is in the
range.
-/
def Gives (env : Environment) (name : String) (range : NumberRange) (n : Int) : Prop :=
  ∃ text, env name = some text ∧ Decimal.Numeral range.signed text.toList n
    ∧ range.least ≤ n ∧ n ≤ range.greatest

/-- (env.Settles name range standard n) holds if n is the number that a variable gives, or the
standard if the variable is not set or its text gives no number in the range.
-/
structure Settles (env : Environment) (name : String) (range : NumberRange) (standard n : Int)
    : Prop where
  given : ∀ m, env.Gives name range m → n = m
  unset : (∀ m, ¬ env.Gives name range m) → n = standard

variable {env : Environment} {name : String} {range : NumberRange} {least greatest standard n : Int}

/-- A variable gives one number at most. -/
theorem Gives.unique {m : Int} (h : env.Gives name range n) (h' : env.Gives name range m)
    : n = m := by
  obtain ⟨text, found, numeral, -⟩ := h
  obtain ⟨text', found', numeral', -⟩ := h'
  cases found.symm.trans found'
  exact numeral.unique numeral'

theorem Gives.within (h : env.Gives name range n) : range.least ≤ n ∧ n ≤ range.greatest := by
  obtain ⟨_, -, -, within⟩ := h
  exact within

theorem Gives.settles (h : env.Gives name range n) : env.Settles name range standard n :=
  ⟨fun _ => h.unique, fun none => (none n h).elim⟩

theorem settles_of_unset (none : ∀ m, ¬ env.Gives name range m)
    : env.Settles name range standard standard :=
  ⟨fun m given => (none m given).elim, fun _ => rfl⟩

theorem signed?_eq_some_iff
    : env.signed? name least greatest = some n ↔ env.Gives name ⟨true, least, greatest⟩ n := by
  simp only [signed?, Option.bind_eq_some_iff, Decimal.readSigned?_eq_some_iff, Gives]

/-- An unsigned number is read from the variable that gives it. -/
theorem unsigned?_eq_some_iff {n : Nat}
    : env.unsigned? name greatest = some n ↔ env.Gives name ⟨false, 0, greatest⟩ n := by
  simp only [unsigned?, Option.bind_eq_some_iff, Option.map_eq_some_iff,
    Decimal.readUnsigned?_eq_some_iff, Gives]
  constructor
  · rintro ⟨text, found, number, numeral, rfl⟩
    rw [Int.toNat_of_nonneg numeral.2.1]
    exact ⟨text, found, numeral⟩
  · rintro ⟨text, found, numeral⟩
    exact ⟨text, found, n, numeral, Int.toNat_natCast n⟩

/-- An unsigned setting is the number that its variable gives, or the standard. -/
theorem settles_unsigned (env : Environment) (name : String) (greatest : Int) (standard : Nat)
    : env.Settles name ⟨false, 0, greatest⟩ standard
        ((env.unsigned? name greatest).getD standard : Nat) := by
  cases read : env.unsigned? name greatest with
  | some n => exact (unsigned?_eq_some_iff.mp read).settles
  | none =>
      apply settles_of_unset
      intro m gives
      -- What is given in the range would have been read, as a natural number.
      obtain ⟨n, rfl⟩ := Int.eq_ofNat_of_zero_le gives.within.1
      rw [unsigned?_eq_some_iff.mpr gives] at read
      cases read

/-- A number of days is read from the variable that gives it. -/
theorem gives_days_iff
    : env.Gives name .days n
      ↔ env.signed? name Decimal.min64 Decimal.max64 = some n ∧ 0 ≤ n := by
  have least : Decimal.min64 ≤ 0 := by decide
  rw [signed?_eq_some_iff]
  constructor
  · rintro ⟨text, found, numeral, forward, below⟩
    exact ⟨⟨text, found, numeral, Int.le_trans least forward, below⟩, forward⟩
  · rintro ⟨⟨text, found, numeral, -, below⟩, forward⟩
    exact ⟨text, found, numeral, forward, below⟩

/-- A number of days is the one that its variable gives, or the standard. -/
theorem settles_days (env : Environment) (name : String) (standard : Int)
    : env.Settles name .days standard (env.days name standard) := by
  unfold days
  cases read : env.signed? name Decimal.min64 Decimal.max64 with
  | none =>
      apply settles_of_unset
      intro m gives
      cases read.symm.trans (gives_days_iff.mp gives).1
  | some n =>
      dsimp only
      split
      · next forward => exact (gives_days_iff.mpr ⟨read, forward⟩).settles
      · next backward =>
          apply settles_of_unset
          intro m gives
          obtain ⟨read', forward⟩ := gives_days_iff.mp gives
          cases read.symm.trans read'
          exact backward forward

/-- A number of days is not negative if the standard is not. -/
theorem Settles.nonneg (h : env.Settles name .days standard n) (forward : 0 ≤ standard) : 0 ≤ n := by
  by_cases given : ∃ m, env.Gives name .days m
  · obtain ⟨m, gives⟩ := given
    rw [h.given m gives]
    exact gives.within.1
  · rw [h.unset (not_exists.mp given)]
    exact forward

end Environment

-----------------------------------------------------------------------------------------
-- Settings
-----------------------------------------------------------------------------------------

namespace PoolSettings

/-- A pool is safe if it may hold a connection, and never holds more of them than it may. -/
structure IsSafe (p : PoolSettings) : Prop where
  one_le_greatest : 1 ≤ p.greatest
  least_le_greatest : p.least ≤ p.greatest

/-- (p.Follows env) holds if the numbers of a pool are those of the environment: one connection is
held, up to 10 may be, and each is waited for up to 30 seconds, unless the variables say otherwise.
The greatest number is one at least, and no more connections are held than may be.
-/
structure Follows (p : PoolSettings) (env : Environment) : Prop where
  greatest : ∃ n, env.Settles "DB_MAX_CONNECTIONS" .unsigned32 10 n ∧ p.greatest = max 1 n
  least : ∃ n, env.Settles "DB_MIN_CONNECTIONS" .unsigned32 1 n ∧ p.least = min (p.greatest : Int) n
  connectTimeout
    : ∃ n, env.Settles "DB_CONNECT_TIMEOUT_SECS" .unsigned64 30 n ∧ p.connectTimeout = n * 1000

theorem isSafe_ofEnvironment (env : Environment) : (ofEnvironment env).IsSafe :=
  ⟨Nat.le_max_left .., Nat.min_le_left ..⟩

theorem follows_ofEnvironment (env : Environment) : (ofEnvironment env).Follows env where
  greatest := by
    refine ⟨_, env.settles_unsigned "DB_MAX_CONNECTIONS" Decimal.maxUnsigned32
      standard.greatest, ?_⟩
    show ((max 1 _ : Nat) : Int) = max 1 _
    omega
  least := by
    refine ⟨_, env.settles_unsigned "DB_MIN_CONNECTIONS" Decimal.maxUnsigned32
      standard.least, ?_⟩
    show ((min (ofEnvironment env).greatest _ : Nat) : Int) = min _ _
    omega
  connectTimeout := by
    refine ⟨_, env.settles_unsigned "DB_CONNECT_TIMEOUT_SECS" Decimal.maxUnsigned64
      standardConnectSeconds, ?_⟩
    unfold ofEnvironment
    dsimp only
    cases env.unsigned? "DB_CONNECT_TIMEOUT_SECS" Decimal.maxUnsigned64 with
    | some seconds => exact Int.natCast_mul ..
    | none => rfl

end PoolSettings

namespace Retention

/-- (s.Follows env) holds if the numbers of a worker are those of the environment: it pauses for a
day, and acts for nobody, unless the variables say otherwise; it pauses for a second at least.
-/
structure Worker.Settings.Follows (s : Worker.Settings) (env : Environment) : Prop where
  interval
    : ∃ n, env.Settles "RETENTION_WORKER_INTERVAL_SECS" .unsigned64 86400 n ∧ s.interval = max 1 n
  actor : ∀ n, s.actor = some n ↔ env.Gives "RETENTION_WORKER_ACTOR_ID" .signed32 n

theorem Worker.Settings.follows_ofEnvironment (env : Environment)
    : (Worker.Settings.ofEnvironment env).Follows env where
  interval := by
    refine ⟨_, env.settles_unsigned "RETENTION_WORKER_INTERVAL_SECS" Decimal.maxUnsigned64
      standardInterval, ?_⟩
    show ((max 1 _ : Nat) : Int) = max 1 _
    omega
  actor n := Environment.signed?_eq_some_iff

/-- (p.Follows env) holds if the numbers of days of a policy are those of the environment, with 30, 60
and 365 days as their standards.
-/
structure Policy.Follows (p : Policy) (env : Environment) : Prop where
  requestDays : env.Settles "RETENTION_REQUEST_DAYS" .days 30 p.requestDays
  adoptedPetDays : env.Settles "RETENTION_ADOPTED_PET_DAYS" .days 60 p.adoptedPetDays
  logKeepDays : env.Settles "AUDIT_LOG_KEEP_DAYS" .days 365 p.logKeepDays

theorem Policy.follows_ofEnvironment (env : Environment)
    : (Policy.ofEnvironment env).Follows env where
  requestDays := env.settles_days "RETENTION_REQUEST_DAYS" 30
  adoptedPetDays := env.settles_days "RETENTION_ADOPTED_PET_DAYS" 60
  logKeepDays := env.settles_days "AUDIT_LOG_KEEP_DAYS" 365

/-- A policy whose numbers of days are those of an environment is safe. -/
theorem Policy.Follows.isSafe {p : Policy} {env : Environment} (h : p.Follows env) : p.IsSafe :=
  .of_nonneg (h.requestDays.nonneg (by decide)) (h.adoptedPetDays.nonneg (by decide))
    (h.logKeepDays.nonneg (by decide))

end Retention

-----------------------------------------------------------------------------------------
-- All environments
-----------------------------------------------------------------------------------------

/-- The settings that an environment asks for, whatever texts its variables hold. A pool may hold a
connection and never holds more of them than it may; a worker pauses for a second at least; a policy
counts no days forward, so that its dates of cutoff do not lie in the future. Each number is the one
that the text of its variable stands for, if that is in range, and otherwise the standard, and is
then kept within these bounds. On any database with such a policy, archiving leaves alone the
requests of today or later and the pets that were adopted today or later only.
-/
theorem Environment.no_unsafe_settings (env : Environment)
    : (PoolSettings.ofEnvironment env).IsSafe ∧ (PoolSettings.ofEnvironment env).Follows env
      ∧ 1 ≤ (Worker.Settings.ofEnvironment env).interval
      ∧ (Worker.Settings.ofEnvironment env).Follows env
      ∧ (Policy.ofEnvironment env).IsSafe ∧ (Policy.ofEnvironment env).Follows env
      ∧ ∀ d : Database, d.policy = .ofEnvironment env → ∀ actor,
          (∀ today, d.store.tables.Spares today
            ((archiveRequests today actor).run d).2.store.tables)
          ∧ (∀ today, d.store.tables.Spares today
            ((archivePets today actor).run d).2.store.tables)
          ∧ d.store.tables.Spares d.clock.date ((Retention.run actor).run d).2.store.tables := by
  have follows := Policy.follows_ofEnvironment env
  refine ⟨PoolSettings.isSafe_ofEnvironment env, PoolSettings.follows_ofEnvironment env,
    (Worker.Settings.ofEnvironment env).interval_pos, Worker.Settings.follows_ofEnvironment env,
    follows.isSafe, follows, ?_⟩
  intro d policy actor
  have safe : d.policy.IsSafe := by
    rw [policy]
    exact follows.isSafe
  exact ⟨fun today => d.spares_archiveRequests safe today actor,
    fun today => d.spares_archivePets safe today actor, d.spares_run safe actor⟩

/-- Variables ask for no connections, but for seven to be held, and for minus zero and minus one days.
One connection may be held, and is; requests are kept for no day, and adopted pets for the 60 days
that are the standard; and a request that was approved today is still live after a retention run.
-/
theorem Environment.no_unsafe_settings_of_odd_texts
    : let env : Environment := fun name => List.lookup name [
        ("DB_MAX_CONNECTIONS", "0"), ("DB_MIN_CONNECTIONS", "+007"),
        ("RETENTION_REQUEST_DAYS", "-0"), ("RETENTION_ADOPTED_PET_DAYS", "-1")]
      let d := (Database.fresh .epoch).after [
        .surroundings .epoch (.ofEnvironment env) true,
        .create .adoptionRequest
          { AdoptionRequestContent.approvedFor 1 1 with approved := some Instant.epoch.date }]
      (PoolSettings.ofEnvironment env).greatest = 1 ∧ (PoolSettings.ofEnvironment env).least = 1
      ∧ d.policy.requestDays = 0 ∧ d.policy.adoptedPetDays = 60
      ∧ 1 ∈ d.store.tables.requestsFrom d.clock.date
      ∧ ((Retention.run none).run d).2.store.tables.IsLive .adoptionRequest 1 := by
  intro env d
  obtain ⟨-, pool, -, -, -, policy, archiving⟩ := no_unsafe_settings env
  have zero : env.Gives "DB_MAX_CONNECTIONS" .unsigned32 0 :=
    ⟨"0", rfl, .plain (.one 0), by decide, by decide⟩
  have seven : env.Gives "DB_MIN_CONNECTIONS" .unsigned32 7 :=
    ⟨"+007", rfl, .plus (.more (.more (.one 0) 0) 7), by decide, by decide⟩
  have none : env.Gives "RETENTION_REQUEST_DAYS" .days 0 :=
    ⟨"-0", rfl, .minus rfl (.one 0), by decide, by decide⟩
  have negative : ∀ n, ¬ env.Gives "RETENTION_ADOPTED_PET_DAYS" .days n := by
    intro n gives
    obtain ⟨read, forward⟩ := gives_days_iff.mp gives
    cases read
    revert forward
    decide
  obtain ⟨m, settles, greatest⟩ := pool.greatest
  obtain ⟨n, settles', least⟩ := pool.least
  rw [settles.given 0 zero] at greatest
  rw [settles'.given 7 seven, greatest] at least
  have recent : 1 ∈ d.store.tables.requestsFrom d.clock.date :=
    ⟨.fresh { AdoptionRequestContent.approvedFor 1 1 with approved := some Instant.epoch.date },
      Instant.epoch.date, by decide +kernel, rfl, by decide +kernel⟩
  have same := ((archiving d rfl Option.none).2.2.requests 1 recent).1
  refine ⟨by omega, by omega, policy.requestDays.given 0 none, policy.adoptedPetDays.unset negative,
    recent, ?_⟩
  rw [Tables.IsLive, same]
  decide +kernel

end AdoptionRecords
