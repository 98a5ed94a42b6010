/-
ReleaseGate/Comparison.lean

What was compared, and what was found: two artifacts, the exclusions that
applied and the change model, or the reason why nothing was compared.

`Comparison.verdict` decides on a finished comparison.  One that was
skipped passes without a look at the versions.
-/
import ReleaseGate.ChangeModel
import ReleaseGate.Path
import ReleaseGate.Policy

namespace ReleaseGate

/-- One of the two archives of a comparison. -/
structure Artifact where
  /-- Where it is, in the words of the user. -/
  location : String
  /-- Its version, in the words of the user. -/
  version : String
  /-- The local file that stands for it. -/
  path : Option Path := none
  /-- The local file was fetched for this comparison. -/
  fetched : Bool := false
  deriving DecidableEq, Repr, Inhabited

/-- Why nothing was compared. -/
inductive SkipReason where
  | identicalContent
  | missingOld
  deriving DecidableEq, Repr, Inhabited

namespace SkipReason

/-- All reasons in their published order. -/
def all : List SkipReason := [identicalContent, missingOld]

/-- The name of a reason. -/
def name : SkipReason → String
  | identicalContent => "IDENTICAL_CONTENT"
  | missingOld => "MISSING_OLD"

/-- The reason with a given name. -/
def ofName? (s : String) : Option SkipReason := all.find? (·.name == s)

/-- A reason in words. -/
def describe : SkipReason → String
  | identicalContent => "old and new artifacts have identical contents"
  | missingOld => "old artifact does not exist; the new artifact was compared with itself"

/-- What is noted about a skipped comparison. -/
def note (r : SkipReason) : String := "Comparison skipped: " ++ r.describe

end SkipReason

/-- Two artifacts and the changes between them. -/
structure Comparison where
  old : Artifact
  new : Artifact
  model : ChangeModel := {}
  exclusions : List String := []
  skipped : Option SkipReason := none
  deriving DecidableEq, Repr, Inhabited

namespace Comparison

/-- The verdict on a finished comparison. -/
def verdict (c : Comparison) : Except VersionError Verdict :=
  match c.skipped with
  | some _ => .ok Verdict.identical
  | none => do
    let old ← Version.parse c.old.version
    let new ← Version.parse c.new.version
    Verdict.decide old new c.model.requiredBump

end Comparison

/-- The file that stands for an artifact, as reports show it. -/
def Artifact.file (a : Artifact) : String :=
  match a.path with
  | some p => p.text
  | none => "None"

end ReleaseGate
