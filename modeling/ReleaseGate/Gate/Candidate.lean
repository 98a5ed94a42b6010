/-
ReleaseGate/Gate/Candidate.lean

A release that asks to go out: what it follows, its file and version, and
where the reports on it are written.
-/
import ReleaseGate.Path

namespace ReleaseGate

/-- A release that asks to go out. -/
structure Candidate where
  /-- Where the release before it is: a path or a URI. -/
  oldLocation : String
  oldVersion : String
  newFile : Path
  newVersion : String
  textReport : Path
  htmlReport : Path
  /-- The file with the exclusions. -/
  exclusionFile : Option Path := none
  /-- There may be no release before it. -/
  mayBeFirst : Bool := false
  deriving DecidableEq, Repr, Inhabited

end ReleaseGate
