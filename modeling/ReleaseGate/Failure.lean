/-
ReleaseGate/Failure.lean

All that can stop a check.

Each part of the library has its own causes; `Failure` is their sum.  A
failure has a message, a code if it is one of the published kinds, and it is
either expected, so that its message is all there is to say, or not.
-/
import ReleaseGate.Archive.Zip
import ReleaseGate.ErrorCode
import ReleaseGate.Files.RealPath
import ReleaseGate.LibraryError
import ReleaseGate.Location
import ReleaseGate.Net.Url
import ReleaseGate.Schema.Issue
import ReleaseGate.Text.Ascii
import ReleaseGate.Version
import ReleaseGate.Xml.Error

namespace ReleaseGate

/-! ### Artifacts -/

/-- Why there is no local file for a location. -/
inductive FetchFault where
  /-- No regular file is at a path. -/
  | absent (path : Path)
  /-- The server has nothing there. -/
  | gone (status : Nat)
  | failed (message : String)
  | unsupported (scheme : String)
  deriving DecidableEq, Repr

/-- A location without a local file, in the words of the user. -/
structure FetchError where
  location : String
  fault : FetchFault
  deriving DecidableEq, Repr

namespace FetchError

/-- There is nothing at the location. -/
def isMissing (e : FetchError) : Bool :=
  match e.fault with
  | .absent _ | .gone _ => true
  | _ => false

/-- The code of an artifact that cannot be had. -/
def code (e : FetchError) : ErrorCode :=
  match e.fault with
  | .absent _ | .gone _ => .artifactMissing
  | .failed _ => .fetchFailed
  | .unsupported _ => .unsupportedLocation

/-- What is said about an artifact that cannot be had. -/
def message (e : FetchError) : String :=
  match e.fault with
  | .absent path => s!"Artifact not found: {path}"
  | .gone status => s!"Artifact not found: {e.location} (HTTP {status})"
  | .failed message => s!"Failed to fetch {e.location}: {message}"
  | .unsupported scheme =>
    s!"Unsupported artifact location scheme '{scheme}': {e.location}"

end FetchError

/-- Why an Android archive is refused. -/
inductive AndroidFault where
  /-- The archive with the classes is not in it. -/
  | noClasses
  | notZip (e : Archive.ZipError)
  deriving DecidableEq, Repr

/-- What is said about the Android archive at a path. -/
def AndroidFault.message (path : Path) : AndroidFault → String
  | noClasses => s!"Android archive {path} does not contain classes.jar"
  | notZip e => s!"Android archive {path} is not a zip file: {e.message}"

/-! ### Comparing -/

/-- Why an engine has no change model to give. -/
inductive EngineFault where
  /-- No difference tool is known. -/
  | notConfigured
  /-- The program that runs the tool cannot be started. -/
  | notStarted (java : String) (number : Int) (text : String)
  | exited (status : Int) (errors : String)
  | noReport
  | unreadable (e : Xml.Error)
  /-- What an engine of the caller says. -/
  | reported (message : String)

/-- What is said about an engine that failed. -/
def EngineFault.message : EngineFault → String
  | notConfigured => "japicmp jar not configured; pass --japicmpJar or set BUMPGATE_JAPICMP_JAR"
  | notStarted java number text =>
    s!"Could not run japicmp ({java}): [Errno {number}] {text}: " ++ Text.quoted java
  | exited status errors => s!"japicmp exited with status {status}: {errors}"
  | noReport => "japicmp did not write an XML report"
  | unreadable e => "Unreadable japicmp XML report: " ++ e.message
  | reported message => message

/-! ### The sum -/

/-- All that can stop a check. -/
inductive Failure where
  | version (e : VersionError)
  | location (e : LocationError)
  | fetch (e : FetchError)
  | android (path : Path) (fault : AndroidFault)
  | zip (e : Archive.ZipError)
  | engine (fault : EngineFault)
  | file (e : FileError)
  | utf8 (fault : Text.Utf8.Fault)
  | notAscii (fault : Text.AsciiFault)
  | address (e : Net.UrlError)
  /-- Links that lead back to the place. -/
  | linkLoop (place : Place)
  | rejected (r : Schema.Rejection)
  /-- An end mark where the path of the difference tool should be. -/
  | endMark
  /-- A failure of another kind, in an engine of the caller or in a library. -/
  | foreign (kind message : String) (standing : Standing)

namespace Failure

/-- An error of a library, passed on as it is. -/
def ofLibrary (e : LibraryError) : Failure := .foreign e.kind e.message e.standing

/-- What is said about a failure. -/
def message : Failure → String
  | version e => e.message
  | location e => e.message
  | fetch e => e.message
  | android path fault => fault.message path
  | zip e => e.message
  | engine fault => fault.message
  | file e => e.message
  | utf8 fault => fault.message
  | notAscii fault => fault.message
  | address e => e.message
  | linkLoop place => "Symlink loop from " ++ Text.quoted (FileTree.placeText place)
  | rejected r => r.message
  | endMark => "'list' object has no attribute 'absolute'"
  | foreign _ message _ => message

/-- The code of a failure of a published kind. -/
def code? : Failure → Option ErrorCode
  | version (.unreadable _) => some .invalidVersion
  | version (.decreasing _ _) => some .versionNotIncreasing
  | fetch e => some e.code
  | android _ _ => some .malformedArchive
  | engine _ => some .diffEngineFailed
  | _ => none

/-- The location of an artifact that cannot be had. -/
def location? : Failure → Option String
  | fetch e => some e.location
  | _ => none

/-- The message is all there is to say. -/
def isExpected : Failure → Bool
  | zip .cutOff | zip (.badData _) | address _ | endMark => false
  | foreign _ _ standing => standing.isExpected
  | _ => true

end Failure

end ReleaseGate
