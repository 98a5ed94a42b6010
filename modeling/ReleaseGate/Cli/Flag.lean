/-
ReleaseGate/Cli/Flag.lean

The flags of the command line.

Some flags take a value, and some of those have to be given.  A flag may
have two names that mean the same.
-/

namespace ReleaseGate.Cli

/-- A flag. -/
inductive Flag where
  | help
  | version
  | oldLocation
  | oldVersion
  | newFile
  | newVersion
  | textReport
  | htmlReport
  | exclusionFile
  | mayBeFirst
  | toolJar
  | quiet
  deriving DecidableEq, Repr, Inhabited

namespace Flag

/-- All flags in the order in which they are listed. -/
def all : List Flag :=
  [help, version, oldLocation, oldVersion, newFile, newVersion, textReport, htmlReport,
    exclusionFile, mayBeFirst, toolJar, quiet]

/-- The names of a flag. -/
def names : Flag → List String
  | help => ["-h", "--help"]
  | version => ["--version"]
  | oldLocation => ["--oldJarUri", "--oldJar"]
  | oldVersion => ["--oldJarVersion"]
  | newFile => ["--newJar"]
  | newVersion => ["--newJarVersion"]
  | textReport => ["--textReport"]
  | htmlReport => ["--htmlReport"]
  | exclusionFile => ["--excludeList"]
  | mayBeFirst => ["--ignoreMissingOld"]
  | toolJar => ["--japicmpJar"]
  | quiet => ["--quiet"]

/-- A flag as messages name it. -/
def title (f : Flag) : String := "/".intercalate f.names

/-- The flag with a name. -/
def ofName? (name : String) : Option Flag := all.find? fun f => f.names.contains name

/-- The flag stands before a value. -/
def takesValue : Flag → Bool
  | help | version | mayBeFirst | quiet => false
  | _ => true

/-- The flag has to be given. -/
def isRequired : Flag → Bool
  | oldLocation | oldVersion | newFile | newVersion | textReport | htmlReport => true
  | _ => false

end Flag

end ReleaseGate.Cli
