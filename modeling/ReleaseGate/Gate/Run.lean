/-
ReleaseGate/Gate/Run.lean

One run of the gate, from a candidate to the verdict on it.

The versions are read first.  Then both artifacts get a local file, the new
one first.  If there is no old one, or both are the same, nothing is
compared; otherwise the versions must not go down, and the engine compares
the archives with the classes.  Both reports are written, whatever the
verdict will be.
-/
import ReleaseGate.Gate.AndroidArchive
import ReleaseGate.Gate.Artifacts
import ReleaseGate.Gate.Candidate
import ReleaseGate.Gate.Engine
import ReleaseGate.Report.Page
import ReleaseGate.Report.Text

namespace ReleaseGate.Gate

/-- What comes out of a run. -/
structure Outcome where
  comparison : Comparison
  verdict : Verdict
  textReport : Path
  htmlReport : Path
  /-- What is worth telling the user. -/
  notes : List String
  deriving Inhabited

namespace Outcome

/-- The release may go out. -/
def passed (o : Outcome) : Bool := o.verdict.passed

/-- The status that a program ends with. -/
def exitCode (o : Outcome) : Nat := if o.passed then 0 else 1

end Outcome

/-- What a run works with. -/
structure Setup where
  settings : Settings
  fetcher : Artifacts.Fetcher := .standard
  /-- The engine of the caller; without one the difference tool is used. -/
  engine? : Option Engine := none

/-- The engine of a setup. -/
def Setup.engine (setup : Setup) : Except EngineFault Engine :=
  match setup.engine? with
  | some engine => .ok engine
  | none => .tool <$> DiffTool.ofSettings setup.settings

/-- Reads an exclusion file; without one there are no exclusions. -/
def loadExclusions (host : Host) : Option Path → Action ExclusionList
  | none => return {}
  | some path => do
    return ExclusionList.parse (String.ofList (← Action.loadText host path.text))

/-- The version of an artifact. -/
def readVersion (text : String) : Action Version := Action.orFail .version (Version.parse text)

/-- The local file of the new artifact. -/
def findNew (host : Host) (setup : Setup) (candidate : Candidate) : Action Path :=
  Artifacts.resolve host setup.settings setup.fetcher
    (candidate.newFile.seenFrom host.workingDir).text

/-- The local file of the old artifact, which may be missing if the candidate
may be the first release. -/
def findOld (host : Host) (setup : Setup) (candidate : Candidate) : Action (Option Path) :=
  if candidate.mayBeFirst then
    Artifacts.resolve? host setup.settings setup.fetcher candidate.oldLocation
  else some <$> Artifacts.resolve host setup.settings setup.fetcher candidate.oldLocation

/-- The local files of both artifacts, the new one first. -/
def findFiles (host : Host) (setup : Setup) (candidate : Candidate) :
    Action (Path × Option Path) := do
  let newFile ← findNew host setup candidate
  let oldFile? ← findOld host setup candidate
  return (newFile, oldFile?)

/-- What an engine is called with. -/
structure Call where
  oldArchive : Path
  newArchive : Path
  exclusions : ExclusionList
  deriving DecidableEq, Repr, Inhabited

/-- Gets everything ready for the engine: the versions must not go down, and
both files become archives with classes, the old one first. -/
def prepare (host : Host) (candidate : Candidate) (oldFile newFile : Path) : Action Call := do
  let oldVersion ← readVersion candidate.oldVersion
  let newVersion ← readVersion candidate.newVersion
  let _ ← Action.orFail .version (oldVersion.bumpTo newVersion)
  let oldArchive ← AndroidArchive.normalize host oldFile
  let newArchive ← AndroidArchive.normalize host newFile
  let exclusions ← loadExclusions host
    (candidate.exclusionFile.map fun p => p.seenFrom host.workingDir)
  return ⟨oldArchive, newArchive, exclusions⟩

/-- Has the engine of a setup compare what it is called with. -/
def callEngine (host : Host) (setup : Setup) (call : Call) : Action ChangeModel := do
  let engine ← Action.orFail .engine setup.engine
  engine.compare host call.oldArchive call.newArchive call.exclusions

/-- The new artifact of a candidate. -/
def newArtifact (candidate : Candidate) (newFile : Path) : Artifact :=
  ⟨candidate.newFile.text, candidate.newVersion, some newFile, false⟩

/-- The old artifact of a candidate. -/
def oldArtifact (candidate : Candidate) (oldFile : Path) : Artifact :=
  let location := candidate.oldLocation
  let isRemote := (Location.split location.toList).toOption.any Location.isRemote
  ⟨location, candidate.oldVersion, some oldFile, isRemote⟩

/-- Compares the artifacts of a candidate. -/
def compare (host : Host) (setup : Setup) (candidate : Candidate) : Action Comparison := do
  let (newFile, oldFile?) ← findFiles host setup candidate
  let new := newArtifact candidate newFile
  match oldFile? with
  | none =>
    return { old := { new with location := candidate.oldLocation }, new, skipped := some .missingOld }
  | some oldFile =>
    let old := oldArtifact candidate oldFile
    if ← Action.sameFiles host oldFile.text newFile.text then
      return { old, new, skipped := some .identicalContent }
    else
      let call ← prepare host candidate oldFile newFile
      let model ← callEngine host setup call
      return { old, new, model, exclusions := call.exclusions.patterns }

/-- Writes a report, with the directories that lead to it. -/
def writeReport (host : Host) (path : Path) (report : String) : Action Unit := do
  Action.makeDirs host path.parent
  Action.store host path.text report.toUTF8

/-- Writes both reports. -/
def writeReports (host : Host) (comparison : Comparison) (textReport htmlReport : Path) :
    Action Unit := do
  writeReport host textReport (TextReport.render comparison)
  writeReport host htmlReport (Page.render comparison host.now)

/-- What is noted about a pair of versions below 1.0.0. -/
def belowOneNote : String :=
  "Both major versions are 0; versions below 1.0.0 carry no compatibility guarantee"

/-- What is worth telling the user. -/
def notes (comparison : Comparison) (verdict : Verdict) (textReport htmlReport : Path) :
    List String :=
  (match comparison.skipped with
    | some reason => [reason.note]
    | none => if verdict.reason = .belowOne then [belowOneNote] else []) ++
    ["Text report written to " ++ textReport.text, "HTML report written to " ++ htmlReport.text]

/-- Runs the gate for a candidate. -/
def run (host : Host) (setup : Setup) (candidate : Candidate) : Action Outcome := do
  let _ ← readVersion candidate.oldVersion
  let _ ← readVersion candidate.newVersion
  let textReport := candidate.textReport.seenFrom host.workingDir
  let htmlReport := candidate.htmlReport.seenFrom host.workingDir
  let comparison ← compare host setup candidate
  writeReports host comparison textReport htmlReport
  let verdict ← Action.orFail .version comparison.verdict
  return ⟨comparison, verdict, textReport, htmlReport,
    notes comparison verdict textReport htmlReport⟩

end ReleaseGate.Gate
