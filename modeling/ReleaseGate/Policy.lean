/-
ReleaseGate/Policy.lean

The pass or fail decision for one pair of releases.

`decide` compares the bump that was declared with the bump that the changes
require.  Two versions below 1.0.0 promise nothing, so they always pass;
otherwise the declared bump must be at least the required one.  Identical
files pass without a look at the versions.
-/
import ReleaseGate.Version

namespace ReleaseGate

/-- Whether a release may go out. -/
inductive Status where
  | pass
  | fail
  deriving DecidableEq, Repr, Inhabited

/-- Why a verdict was reached. -/
inductive Reason where
  /-- The two files are the same, or there is no old one. -/
  | identicalContent
  /-- Both majors are zero. -/
  | belowOne
  /-- The declared bump covers the required one. -/
  | compliant
  /-- The declared bump is too small. -/
  | insufficientBump
  deriving DecidableEq, Repr, Inhabited

/-- The outcome of one check. -/
structure Verdict where
  status : Status
  reason : Reason
  declared : Option Bump := none
  required : Option Bump := none
  message : Option String := none
  deriving DecidableEq, Repr, Inhabited

namespace Status

/-- All outcomes in their published order. -/
def all : List Status := [pass, fail]

/-- The name of an outcome. -/
def name : Status → String
  | pass => "PASS"
  | fail => "FAIL"

/-- The outcome with a given name. -/
def ofName? (s : String) : Option Status := all.find? (·.name == s)

end Status

namespace Reason

/-- All reasons in their published order. -/
def all : List Reason := [identicalContent, belowOne, compliant, insufficientBump]

/-- The name of a reason. -/
def name : Reason → String
  | identicalContent => "IDENTICAL_CONTENT"
  | belowOne => "PRE_1_0"
  | compliant => "COMPLIANT"
  | insufficientBump => "INSUFFICIENT_BUMP"

/-- The reason with a given name. -/
def ofName? (s : String) : Option Reason := all.find? (·.name == s)

end Reason

namespace Verdict

/-- A verdict that lets the release go out. -/
def passed (v : Verdict) : Bool := v.status == .pass

/-- The verdict when there is nothing to compare. -/
def identical : Verdict := ⟨.pass, .identicalContent, none, none, none⟩

/-- What is said when the declared bump is too small. -/
def mismatchMessage (old new : Version) (declared required : Bump) : String :=
  s!"The version change between {old} and {new} is {declared.name}, but the changes made to the code require a {required.name} version change"

/-- The verdict for two versions and the bump that the changes require. -/
def decide (old new : Version) (required : Bump) : Except VersionError Verdict := do
  let declared ← old.bumpTo new
  if old.major = 0 ∧ new.major = 0 then
    return ⟨.pass, .belowOne, some declared, some required, none⟩
  else if declared.rank < required.rank then
    return ⟨.fail, .insufficientBump, some declared, some required,
      some (mismatchMessage old new declared required)⟩
  else
    return ⟨.pass, .compliant, some declared, some required, none⟩

end Verdict

end ReleaseGate
