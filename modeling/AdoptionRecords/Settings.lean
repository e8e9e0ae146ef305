import AdoptionRecords.Retention.Worker
import AdoptionRecords.Text.Decimal

/-! Settings that are taken from environment variables. A variable that is not set, or whose text
is no number in range, leaves a setting at its standard.
-/

namespace AdoptionRecords

open Text

/-- The values of environment variables. -/
abbrev Environment := String → Option String

namespace Environment

/-- A whole number between two bounds, with an optional sign. -/
def signed? (env : Environment) (name : String) (least greatest : Int) : Option Int :=
  (env name).bind fun value => Decimal.readSigned? least greatest value.toList

/-- A whole number that is not negative, up to a bound. -/
def unsigned? (env : Environment) (name : String) (greatest : Int) : Option Nat :=
  (env name).bind fun value => (Decimal.readUnsigned? greatest value.toList).map Int.toNat

/-- A number of days, which is not negative. -/
def days (env : Environment) (name : String) (standard : Int) : Int :=
  match env.signed? name Decimal.min64 Decimal.max64 with
  | some days => if 0 ≤ days then days else standard
  | none => standard

end Environment

/-- The retention policy that an environment asks for. -/
def Retention.Policy.ofEnvironment (env : Environment) : Retention.Policy where
  requestDays := env.days "RETENTION_REQUEST_DAYS" standard.requestDays
  adoptedPetDays := env.days "RETENTION_ADOPTED_PET_DAYS" standard.adoptedPetDays
  logKeepDays := env.days "AUDIT_LOG_KEEP_DAYS" standard.logKeepDays

/-- The worker that an environment asks for. Its interval is at least a second. -/
def Retention.Worker.Settings.ofEnvironment (env : Environment) : Settings where
  enabled :=
    match env "RETENTION_WORKER_ENABLED" with
    | some value => value ≠ "false" && value ≠ "0"
    | none => true
  interval :=
    max 1 ((env.unsigned? "RETENTION_WORKER_INTERVAL_SECS" Decimal.maxUnsigned64).getD
      standardInterval)
  interval_pos := Nat.le_max_left ..
  actor := env.signed? "RETENTION_WORKER_ACTOR_ID" Decimal.min32 Decimal.max32
  runOnStart := true

/-- How many connections to the store are held, and for how many milliseconds. -/
structure PoolSettings where
  greatest : Nat
  least : Nat
  connectTimeout : Nat
  idleTimeout : Nat
  lifetime : Option Nat
  deriving DecidableEq, Repr

namespace PoolSettings

/-- The seconds to wait for a connection. -/
def standardConnectSeconds : Nat :=
  30

/-- The seconds for which an unused connection is held. -/
def standardIdleSeconds : Nat :=
  600

/-- One to ten connections, each for half an hour. -/
def standard : PoolSettings where
  greatest := 10
  least := 1
  connectTimeout := standardConnectSeconds * 1000
  idleTimeout := standardIdleSeconds * 1000
  lifetime := some 1800000

/-- The settings that an environment asks for. At least one connection may be held, and no more
are held than may be.
-/
def ofEnvironment (env : Environment) : PoolSettings :=
  let greatest :=
    max 1 ((env.unsigned? "DB_MAX_CONNECTIONS" Decimal.maxUnsigned32).getD standard.greatest)
  { standard with
    greatest
    least :=
      min greatest
        ((env.unsigned? "DB_MIN_CONNECTIONS" Decimal.maxUnsigned32).getD standard.least)
    connectTimeout :=
      match env.unsigned? "DB_CONNECT_TIMEOUT_SECS" Decimal.maxUnsigned64 with
      | some seconds => seconds * 1000
      | none => standard.connectTimeout }

/-- The most milliseconds to wait for a connection. The clock counts seconds up to 2 ^ 63, and is
taken to have counted an hour when the wait begins.
-/
def longestWait : Nat :=
  (Nat.pow 2 63 - 1 - 3600) * 1000

end PoolSettings

end AdoptionRecords
