/-
ReleaseGate/ErrorCode.lean

The codes by which a caller tells fatal conditions apart without reading
their messages.
-/

namespace ReleaseGate

/-- The kind of a fatal condition. -/
inductive ErrorCode where
  | usage
  | invalidVersion
  | versionNotIncreasing
  | artifactMissing
  | fetchFailed
  | unsupportedLocation
  | malformedArchive
  | diffEngineFailed
  deriving DecidableEq, Repr

namespace ErrorCode

/-- The name under which a code is published. -/
def name : ErrorCode → String
  | usage => "USAGE"
  | invalidVersion => "INVALID_VERSION"
  | versionNotIncreasing => "VERSION_NOT_INCREASING"
  | artifactMissing => "ARTIFACT_MISSING"
  | fetchFailed => "FETCH_FAILED"
  | unsupportedLocation => "UNSUPPORTED_LOCATION"
  | malformedArchive => "MALFORMED_ARCHIVE"
  | diffEngineFailed => "DIFF_ENGINE_FAILED"

/-- All codes in the order in which they are published. -/
def all : List ErrorCode :=
  [usage, invalidVersion, versionNotIncreasing, artifactMissing, fetchFailed,
    unsupportedLocation, malformedArchive, diffEngineFailed]

end ErrorCode

end ReleaseGate
