/-
TokenCustody.Main — the job as a process.

Clocks, random numbers and pauses come from the machine. This process
has no network of its own: whatever a request asks for, the answer is
that nobody could be reached.
-/
import Std.Time.DateTime.Timestamp
import TokenCustody.Job

namespace TokenCustody.Machine

open TokenCustody.Time

/-- The time of the calendar. -/
def now : IO Instant := do
  let since := (← Std.Time.Timestamp.now).toNanosecondsSinceUnixEpoch.toInt
  return (Instant.epoch.add ⟨since⟩).getD .epoch

/-- The time since the machine was started. -/
def timer : IO Duration := return ⟨← IO.monoNanosNow⟩

/-- A random number from 0 to 1, without 1: 53 random bits behind the binary point. -/
def draw : IO Float := do
  let bytes ← IO.getRandomBytes 8
  let n := bytes.toList.foldl (fun n b => 256 * n + b.toNat) 0
  return Float.ofNat (n / 2048) / Float.ofNat 9007199254740992

/-- Pauses, for as long as the machine can count. -/
def sleep (d : Duration) : IO Unit := IO.sleep (UInt32.ofNat (min d.millis 4294967295))

/-- The answer to a question. -/
def answer : (q : Ambient) → IO q.Reply
  | .now => now
  | .timer => timer
  | .draw => draw
  | .bytes count => return (← IO.getRandomBytes (USize.ofNat count)).toList
  | .sleep d => sleep d
  | .emit _ | .tally _ => return ()

/-- The answer to a request: nobody could be reached. -/
def network (r : Http.Request) : IO (Except Error Http.Response) :=
  return r.outcome Http.defaultTimeout Http.defaultSizeLimit (.unreachable "no network")

/-- The names of the variables that a job reads. -/
def variableNames : List String :=
  CommandLine.logFormatVariable ::
    ["CLIENT_ID", "CLIENT_SECRET", "AUTHORIZE_URL", "TOKEN_URL", "REDIRECT_URI", "SCOPE",
      "HTTP_TIMEOUT_SECS", "REFRESH_THRESHOLD_SECS", "INVOCATION_BUDGET_SECS", "STORE_URL",
      "STORE_SECRET", "STORE_AUTH_TOKEN"].map (Variables.mark ++ ·)

/-- The variables that a job reads. -/
def environment : IO Variables := do
  let values ← variableNames.mapM fun name => return (name, ← IO.getEnv name)
  return fun name => (values.lookup name).join

end TokenCustody.Machine

open TokenCustody in
/-- Runs the job and prints what it leaves behind. -/
def main (words : List String) : IO UInt32 := do
  let program := job words (← Machine.environment)
  let jobEnd := (← program.run Machine.answer Machine.network).getD .aborted
  if let some line := jobEnd.line then IO.println line
  if let some failure := jobEnd.failure then IO.eprintln ("Error: " ++ failure)
  return UInt32.ofNat jobEnd.exitCode
