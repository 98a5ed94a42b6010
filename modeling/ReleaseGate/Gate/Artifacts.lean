/-
ReleaseGate/Gate/Artifacts.lean

Local files for the locations of artifacts.

A path and a `file:` URI stand for the file itself, which has to be there.
What has to be fetched is put into a new temporary file, whose name ends in
the suffix of the location.  If fetching fails the file is taken away again.
-/
import ReleaseGate.Machine
import ReleaseGate.Settings

namespace ReleaseGate.Artifacts

/-- Who fetches files. -/
inductive Fetcher where
  /-- A client of the caller. -/
  | given
  /-- A client made from the settings. -/
  | standard
  deriving DecidableEq, Repr, Inhabited

/-- The client that a fetcher uses. -/
def Fetcher.client (settings : Settings) : Fetcher → Except Text.AsciiFault Net.Client
  | given => .ok .given
  | standard =>
    match Text.asciiFault? settings.userAgent.toList with
    | some fault => .error fault
    | none => .ok (.standard settings.userAgent settings.timeout)

/-- A file that is there, as an absolute path. -/
def findLocal (host : Host) (location : String) (path : Path) : Action Path := do
  let path := path.seenFrom host.workingDir
  if ← Action.isFile host path.text then return path
  else throw (.fetch ⟨location, .absent path⟩)

/-- What is said of a client that was stopped.  Only a request that failed is
told as a file that cannot be fetched. -/
def fetchFailure (location : String) : Net.Fault → Failure
  | .failed message => .fetch ⟨location, .failed message⟩
  | .refused e => .address e
  | .foreign e => .ofLibrary e

/-- Gets the file at a location. -/
def download (host : Host) (client : Net.Client) (location : String) (target : Path) :
    Action Unit := do
  match ← Action.fetch host client location with
  | .body content => Action.store host target.text content
  | .missing status => throw (.fetch ⟨location, .gone status⟩)
  | .stopped fault => throw (fetchFailure location fault)

/-- Makes the directory for fetched files, where one is set. -/
def makeStagingDir (host : Host) (settings : Settings) : Action Unit :=
  match settings.stagingDir with
  | some dir => Action.makeDirs host dir
  | none => return

/-- What the names of fetched files start with. -/
def stagedStart : List Char := "bumpgate-".toList

/-- Fetches the file at a location into a new temporary file. -/
def stage (host : Host) (settings : Settings) (fetcher : Fetcher) (location : String)
    (suffix : List Char) : Action Path := do
  makeStagingDir host settings
  let temp ← Action.newTempFile host (settings.stagingDir.getD host.tempDir) stagedStart suffix
  let client ← Action.orFail .notAscii (fetcher.client settings)
  Action.orElseDo (download host client location temp) (Action.unlink host temp.text)
  return temp

/-- The local file for a location. -/
def resolve (host : Host) (settings : Settings) (fetcher : Fetcher) (location : String) :
    Action Path := do
  let l ← Action.orFail .location (Location.split location.toList)
  if l.isLocal then findLocal host location (.ofString location)
  else if l.scheme = "file".toList then findLocal host location l.filePath
  else if l.isRemote then stage host settings fetcher location l.suffix
  else throw (.fetch ⟨location, .unsupported (String.ofList l.scheme)⟩)

/-- The local file for a location; none if there is nothing at it. -/
def resolve? (host : Host) (settings : Settings) (fetcher : Fetcher) (location : String) :
    Action (Option Path) :=
  tryCatch (some <$> resolve host settings fetcher location) fun e =>
    match e with
    | .fetch f => if f.isMissing then pure none else throw e
    | _ => throw e

end ReleaseGate.Artifacts
