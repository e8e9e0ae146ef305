import AdoptionRecords.CommandLine.Run
import Std.Time.DateTime.Timestamp

/-! The program: one command on a fresh store, at the present time and with the settings of the
environment.
-/

namespace AdoptionRecords

/-- The environment variables that settings are taken from. -/
def settingNames : List String :=
  ["DATABASE_URL", "DB_MAX_CONNECTIONS", "DB_MIN_CONNECTIONS", "DB_CONNECT_TIMEOUT_SECS",
    "RETENTION_REQUEST_DAYS", "RETENTION_ADOPTED_PET_DAYS", "AUDIT_LOG_KEEP_DAYS",
    "RETENTION_WORKER_ENABLED", "RETENTION_WORKER_INTERVAL_SECS", "RETENTION_WORKER_ACTOR_ID",
    "LOG_FILE"]

/-- The instant with a given number of nanoseconds since 1970. -/
def instantOfNanos? (nanos : Int) : Option Calendar.Instant :=
  Calendar.Instant.of? (nanos / Calendar.nanosPerSecond)
    (nanos % Calendar.nanosPerSecond).toNat

end AdoptionRecords

open AdoptionRecords

/-- Runs one command line. -/
def main (arguments : List String) : IO UInt32 := do
  let present ← Std.Time.Timestamp.now
  let values ← settingNames.mapM fun name => do
    return (name, ← IO.getEnv name)
  let env : Environment := fun name => (values.lookup name).join
  match instantOfNanos? present.toNanosecondsSinceUnixEpoch.val with
  | none => return 1
  | some clock =>
      let reply := ((CommandLine.run env 1 arguments).run (Database.fresh clock.stored)).1
      reply.printed.forM IO.println
      reply.errors.forM IO.eprintln
      return reply.exit.toUInt32
