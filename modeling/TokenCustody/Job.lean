/-
TokenCustody.Job — the scheduled job from end to end.

A job is what the words on the command line and the variables ask for,
done over HTTP. Its result is an exit code, the line it prints, and what
it says about a failure that kept it from printing one.
-/
import TokenCustody.CommandLine
import TokenCustody.Config.Environment
import TokenCustody.Provider.Client
import TokenCustody.Report
import TokenCustody.Store.Remote

namespace TokenCustody

/-! ## Over HTTP -/

/-- Answers a call to the store or the provider by HTTP requests. -/
def answerOverHttp (client : ClientConfig) (store : RemoteStore) :
    (c : CustodyCall) → Program Http.Network c.Reply
  | .read => store.read
  | .write r c => store.write r c
  | .refresh refreshToken => client.refresh refreshToken
  | .exchange code redirectUri => client.exchange code redirectUri

/-- A program over HTTP instead of the store and the provider. -/
def Program.overHttp {α : Type} (client : ClientConfig) (store : RemoteStore)
    (p : Program Custody α) : Program Http.Network α :=
  p.serve (answerOverHttp client store)

/-! ## The end of a job -/

/-- What a job leaves behind. -/
structure JobEnd where
  exitCode : Nat
  /-- The line on standard output. -/
  line : Option String
  /-- What is said about a failure, on standard error. -/
  failure : Option String
  deriving DecidableEq

/-- The text of a cause, whose further lines are set in. -/
def indentLines (s : String) : String :=
  String.ofList (s.toList.flatMap fun c => if c = '\n' then '\n' :: List.replicate 7 ' ' else [c])

/-- What is said about a failure: what was being done, and the error from the outside
in. -/
def explain (doing : String) (e : Error) : String :=
  doing ++ "\n\nCaused by:\n    0: " ++ indentLines e.message ++ "\n    1: " ++
    indentLines e.detail

namespace JobEnd

/-- The job did its work. -/
def printed (exitCode : Nat) (line : String) : JobEnd := ⟨exitCode, some line, none⟩

/-- The job failed while it was doing something. -/
def failed (doing : String) (e : Error) : JobEnd := ⟨1, none, some (explain doing e)⟩

/-- The job ended in the middle of its work. -/
def aborted : JobEnd := ⟨101, none, none⟩

end JobEnd

/-! ## Jobs -/

/-- What is printed when the version is asked for. -/
def versionLine : String := "token-keeper 0.1.0"

/-- What is printed when help is asked for. -/
def helpText : String :=
  "Keep the brokerage OAuth2 token usable\n\n" ++
  "Usage: token-keeper [OPTIONS] <COMMAND>\n\n" ++
  "Commands:\n" ++
  "  run     Run one scheduled invocation: refresh if needed and report\n" ++
  "  status  Report the stored token state without contacting the provider\n" ++
  "  help    Print this message or the help of the given subcommand(s)\n\n" ++
  "Options:\n" ++
  "      --log-format <LOG_FORMAT>  Log output format [env: " ++ CommandLine.logFormatVariable ++
  "=] [default: text] [possible values: text, json]\n" ++
  "  -h, --help                     Print help\n" ++
  "  -V, --version                  Print version"

/-- The end of a job whose words ask for nothing to be done. -/
def UsageError.jobEnd (e : UsageError) : JobEnd :=
  { exitCode := e.exitCode
    line := match e with
      | .helpAsked => some helpText
      | .versionAsked => some versionLine
      | _ => none
    failure := none }

/-- Does what a command asks for. -/
def Command.perform (cfg : Settings) : Command → Program Custody JobEnd
  | .run => do
    let report ← invoke cfg
    return .printed report.exitCode report.render
  | .status => do
    match ← lookAt cfg with
    | .ok found => return .printed 0 found.render
    | .error e => return .failed "failed to read token store" e

/-- A whole job. -/
def job (words : List String) (v : Variables) : Program Http.Network JobEnd :=
  match CommandLine.read (v CommandLine.logFormatVariable) words with
  | .error e => return e.jobEnd
  | .ok commandLine =>
    match v.jobConfig with
    | none => .halt
    | some (.error e) => return .failed "invalid configuration" e
    | some (.ok config) =>
      match RemoteStore.ofConfig config.store with
      | .error e => return .failed "failed to build token coordinator" e
      | .ok store =>
        (commandLine.command.perform config.settings).overHttp config.client store

end TokenCustody
