/-
ReleaseGate/Settings.lean

What the surroundings of a check decide: the program that runs the
difference tool, and how and where files are fetched.

A value given by the caller comes first, then a variable of the environment
that is named for the setting, in any letters, then the usual value.
-/
import ReleaseGate.Schema.Check
import ReleaseGate.Text.Case

namespace ReleaseGate

/-- The settings of a check. -/
structure Settings where
  /-- The program that runs the difference tool. -/
  java : String := "java"
  /-- The archive of the difference tool. -/
  toolJar : Option Path := none
  /-- How many seconds to wait for a server; without a number, for ever. -/
  timeout : Option Float := none
  /-- The name that servers are told. -/
  userAgent : String := "bumpgate"
  /-- Where fetched files are put, if not with all temporary files. -/
  stagingDir : Option Path := none
  deriving Inhabited

namespace Settings

/-- The names of the settings. -/
def names : List String :=
  ["java", "japicmp_jar", "http_timeout_seconds", "user_agent", "staging_dir"]

/-- What the names of variables start with, in small letters. -/
def variableStart : String := "bumpgate_"

/-- The value of the variable for a setting: the last one of that name. -/
def valueIn? (environment : List (String × String)) (name : String) : Option String :=
  (environment.reverse.find? fun (n, _) =>
    Text.lower n.toList == (variableStart ++ name).toList).map (·.2)

/-- The data of a setting, from the caller or from the environment. -/
def source? (given : Schema.Fields) (environment : List (String × String)) (name : String) :
    Option Data :=
  (Data.field? given name).orElse fun _ => (valueIn? environment name).map Data.text

/-- Checks the data of settings. -/
def check (fields : Schema.Fields) : Schema.Checked Settings :=
  Settings.mk <$> Schema.optional fields "java" Schema.text "java"
    <*> Schema.optional fields "japicmp_jar" (Schema.nullable Schema.path) none
    <*> Schema.optional fields "http_timeout_seconds" (Schema.nullable Schema.float) none
    <*> Schema.optional fields "user_agent" Schema.text "bumpgate"
    <*> Schema.optional fields "staging_dir" (Schema.nullable Schema.path) none

/-- The settings that hold. -/
def ofSources (given : Schema.Fields) (environment : List (String × String)) :
    Except Schema.Rejection Settings :=
  let fields := names.filterMap fun name =>
    (source? given environment name).map fun d => (name, d)
  (check fields).toExcept "BumpGateSettings"

end Settings

end ReleaseGate
