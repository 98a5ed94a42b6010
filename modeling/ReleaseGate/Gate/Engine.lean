/-
ReleaseGate/Gate/Engine.lean

What compares two archives: the difference tool, run as a program, or an
engine that the caller hands in.

The tool is asked for a report in XML, of changed classes only, and told
which patterns to leave out.  It writes into a directory of its own, which
is taken away whatever happens.
-/
import ReleaseGate.ExclusionList
import ReleaseGate.Machine
import ReleaseGate.Settings
import ReleaseGate.ToolReport

namespace ReleaseGate

/-- The difference tool and the program that runs it. -/
structure DiffTool where
  jar : Path
  java : String
  deriving DecidableEq, Repr, Inhabited

/-- What compares two archives. -/
inductive Engine where
  | tool (t : DiffTool)
  /-- An engine of the caller; its answer may depend on the files. -/
  | given (compare : FileTree → Path → Path → ExclusionList → Except Failure ChangeModel)

namespace DiffTool

/-- The tool that the settings name. -/
def ofSettings (settings : Settings) : Except EngineFault DiffTool :=
  match settings.toolJar with
  | some jar => .ok ⟨jar, settings.java⟩
  | none => .error .notConfigured

/-- The arguments that leave patterns out. -/
def exclusionArguments (exclusions : ExclusionList) : List String :=
  if exclusions.isEmpty then []
  else ["--exclude", ";".intercalate exclusions.patterns, "--exclude-exclusively"]

/-- The command that compares two archives. -/
def command (t : DiffTool) (old new : Path) (exclusions : ExclusionList) (report : Path) :
    List String :=
  [t.java, "-jar", t.jar.text, "--old", old.text, "--new", new.text, "--only-modifications",
    "--ignore-missing-classes", "--no-annotations", "--xml-file", report.text] ++
    exclusionArguments exclusions

/-- How much of the errors is shown, counted from their end. -/
def shownErrors : Nat := 2000

/-- The end of the errors that a program wrote. -/
def errorTail (errors : String) : String :=
  let s := Text.strip errors.toList
  String.ofList (s.drop (s.length - shownErrors))

/-- The errors that a program wrote, as a text.  Whatever else it wrote has to
be a text too. -/
def readErrors (output errors : Written) : Except Text.Utf8.Fault String := do
  let _ ← output.read
  errors.read

/-- The change model in the report of the tool. -/
def readReport (host : Host) (report : Path) : Action ChangeModel := do
  if ← Action.isFile host report.text then
    let text ← Action.loadText host report.text
    Action.orFail (fun e => .engine (.unreadable e)) (ToolReport.parse text)
  else throw (.engine .noReport)

/-- Writes what a program has to report. -/
def keepReport (host : Host) (report : Path) : Option ByteArray → Action Unit
  | some content => Action.store host report.text content
  | none => return

/-- Runs a command and reads the report that it writes. -/
def run (host : Host) (t : DiffTool) (command : List String) (report : Path) :
    Action ChangeModel := do
  match host.process command with
  | .absent => throw (.engine (.notStarted t.java 2 "No such file or directory"))
  | .refused number text =>
    Action.recordCall command
    throw (.engine (.notStarted t.java number text))
  | .nullCharacter => throw (.file ⟨.nullCharacter, none, none⟩)
  | .exited status errors content? output =>
    Action.recordCall command
    keepReport host report content?
    let errors ← Action.orFail .utf8 (readErrors output errors)
    if status = 0 then readReport host report
    else throw (.engine (.exited status (errorTail errors)))

/-- Compares two archives with the tool. -/
def compare (host : Host) (t : DiffTool) (old new : Path) (exclusions : ExclusionList) :
    Action ChangeModel := do
  let dir ← Action.newTempDir host "bumpgate-japicmp-".toList
  let report := dir.child "japicmp.xml".toList
  let command := t.command old new exclusions report
  let model ← Action.orElseDo (t.run host command report) (Action.clear host dir.text)
  Action.clear host dir.text
  return model

end DiffTool

/-- Compares two archives. -/
def Engine.compare (host : Host) (engine : Engine) (old new : Path) (exclusions : ExclusionList) :
    Action ChangeModel :=
  match engine with
  | .tool t => t.compare host old new exclusions
  | .given f => do
    Action.recordCall (["compare", old.text, new.text] ++ exclusions.patterns)
    Action.orFail id (f (← Action.files) old new exclusions)

end ReleaseGate
