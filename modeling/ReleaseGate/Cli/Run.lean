/-
ReleaseGate/Cli/Run.lean

Running the gate from a command line.

A run prints texts on two channels and ends with a status: 0 if the release
may go out or the user only asked something, 1 otherwise.  Whatever stops
the run becomes one error message; one that was not expected is followed by
a trace, of which only the first line is fixed.
-/
import ReleaseGate.Cli.Arguments
import ReleaseGate.Cli.Help
import ReleaseGate.Gate.Run
import ReleaseGate.Schema.Records

namespace ReleaseGate.Cli

/-- What a run prints, and its status. -/
structure Output where
  status : Nat
  out : String := ""
  err : String := ""
  deriving DecidableEq, Repr, Inhabited

/-- A line of information. -/
def info (message : String) : String := "INFO: " ++ message ++ "\n"

/-- A line about an error. -/
def error (message : String) : String := "ERROR: " ++ message ++ "\n"

/-- What is printed when reading the command line stops. -/
def Stop.output : Stop → Output
  | help => { status := 0, out := helpText }
  | version => { status := 0, out := versionText }
  | wrong e =>
    { status := 1, err := error e.message ++ info "Try --help for usage information" }

/-- What is printed about a failure. -/
def failureText (e : Failure) : String :=
  if e.isExpected then error e.message
  else error ("Unexpected error: " ++ e.message) ++ "Traceback (most recent call last):\n"

/-- What is printed about the outcome of the gate. -/
def outcomeText (quiet : Bool) (o : Gate.Outcome) : String :=
  (if quiet then "" else String.join (o.notes.map info)) ++
    if o.passed then "" else error (o.verdict.message.getD "None")

namespace Arguments

/-- The value of a flag as loose data. -/
def dataOf (v : Value) : Data :=
  match v with
  | some s => .text (String.ofList s)
  | none => .list []

/-- A field of a record, if its flag is given. -/
def field? (a : Arguments) (name : String) (f : Flag) : Option (String × Data) :=
  (a.value? f).map fun v => (name, dataOf v)

/-- The candidate that the arguments describe, as loose data. -/
def candidateFields (a : Arguments) : Schema.Fields :=
  [a.field? "old_location" .oldLocation, a.field? "old_version" .oldVersion,
    a.field? "new_jar" .newFile, a.field? "new_version" .newVersion,
    a.field? "text_report" .textReport, a.field? "html_report" .htmlReport,
    a.field? "exclude_list" .exclusionFile].filterMap id ++
    [("ignore_missing_old", .bool (a.has .mayBeFirst))]

/-- The settings with what the arguments say about them. -/
def override (host : Host) (a : Arguments) (settings : Settings) : Except Failure Settings :=
  match a.value? .toolJar with
  | none => .ok settings
  | some none => .error .endMark
  | some (some s) =>
    .ok { settings with toolJar := some ((Path.ofChars s).seenFrom host.workingDir) }

end Arguments

/-- Runs the gate for what the arguments describe. -/
def check (host : Host) (engine? : Option Engine) (a : Arguments) : Action Gate.Outcome := do
  let settings ← Action.orFail .rejected (Settings.ofSources [] host.environment)
  let settings ← Action.orFail id (a.override host settings)
  let candidate ← Action.orFail .rejected (Candidate.ofData a.candidateFields)
  Gate.run host { settings, engine? } candidate

/-- Runs a command line on a machine. -/
def run (host : Host) (engine? : Option Engine) (words : List String) : StateM Machine Output := do
  match Arguments.parse (words.map String.toList) with
  | .error stop => return stop.output
  | .ok a =>
    match ← (check host engine? a).run with
    | .error e => return { status := 1, err := failureText e }
    | .ok o => return { status := o.exitCode, err := outcomeText (a.has .quiet) o }

end ReleaseGate.Cli
