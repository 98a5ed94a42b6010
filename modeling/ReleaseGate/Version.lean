/-
ReleaseGate/Version.lean

Versions of the form `major.minor.patch`, with an optional qualifier.

The three components are compared in order and the qualifier is for show
only.  `Version.read?` takes a text apart: three runs of decimal digits of
any script with points between them, then nothing, or a qualifier that
starts with `-` or `+` and goes on with ASCII letters, digits, `.`, `+` and
`-`.  `Version.parse` adds the limit on the length of a component.
`Version.text` writes a version; reading it gives the version back.

`Version.bumpTo` names the step between two versions: the first component
that grew.  It refuses a pair that goes down.
-/
import ReleaseGate.Bump
import ReleaseGate.Text.Blank
import ReleaseGate.Text.Digit

namespace ReleaseGate

open Text (isDigit digitsValue strip)

/-- A version of a release. -/
structure Version where
  major : Nat
  minor : Nat
  patch : Nat
  qualifier : Option String := none
  deriving DecidableEq, Repr, Inhabited

/-- Why a version, or a pair of versions, is refused. -/
inductive VersionError where
  /-- The text is no version. -/
  | unreadable (text : String)
  /-- A component has more digits than are read. -/
  | tooManyDigits (count : Nat)
  /-- The new version is lower than the old one. -/
  | decreasing (old new : Version)
  deriving DecidableEq, Repr

namespace Version

/-- The three components, most significant first. -/
def triple (v : Version) : List Nat := [v.major, v.minor, v.patch]

/-- A version as it is written. -/
def chars (v : Version) : List Char :=
  Text.decimal v.major ++ '.' :: (Text.decimal v.minor ++ '.' ::
    (Text.decimal v.patch ++ (v.qualifier.getD "").toList))

/-- A version as it is written. -/
def text (v : Version) : String := String.ofList v.chars

instance : ToString Version := ⟨text⟩

/-! ### Reading -/

/-- The parts of a version text: three runs of digits and what follows. -/
structure Parts where
  major : List Char
  minor : List Char
  patch : List Char
  tail : List Char
  deriving DecidableEq, Repr

/-- A character that may stand in a qualifier. -/
def isQualifierChar (c : Char) : Bool :=
  c.isAlphanum || c == '.' || c == '+' || c == '-'

/-- A well-formed end of a version text. -/
def isTail : List Char → Bool
  | [] => true
  | c :: rest => (c == '-' || c == '+') && rest.all isQualifierChar

/-- A run of digits that is not empty, and the text after it. -/
def run? (s : List Char) : Option (List Char × List Char) :=
  let digits := s.takeWhile isDigit
  if digits.isEmpty then none else some (digits, s.dropWhile isDigit)

/-- The text after a point. -/
def afterPoint? : List Char → Option (List Char)
  | '.' :: rest => some rest
  | _ => none

/-- Takes a version text apart. -/
def read? (s : List Char) : Option Parts := do
  let (major, s) ← run? s
  let (minor, s) ← run? (← afterPoint? s)
  let (patch, tail) ← run? (← afterPoint? s)
  if isTail tail then some ⟨major, minor, patch, tail⟩ else none

/-- The most digits that a component may have, leading zeros included. -/
def digitLimit : Nat := 4300

/-- The number in a component. -/
def component (digits : List Char) : Except VersionError Nat :=
  if digits.length ≤ digitLimit then .ok (digitsValue digits)
  else .error (.tooManyDigits digits.length)

/-- The version that the parts of a text stand for. -/
def ofParts (p : Parts) : Except VersionError Version := do
  let major ← component p.major
  let minor ← component p.minor
  let patch ← component p.patch
  return ⟨major, minor, patch, if p.tail.isEmpty then none else some (String.ofList p.tail)⟩

/-- Reads a version; blanks around it do not matter. -/
def parse (s : String) : Except VersionError Version :=
  match read? (strip s.toList) with
  | some p => ofParts p
  | none => .error (.unreadable s)

/-! ### Comparing -/

/-- The order of versions: by components, the first difference decides. -/
def lt (a b : Version) : Bool :=
  a.major < b.major || (a.major == b.major &&
    (a.minor < b.minor || (a.minor == b.minor && a.patch < b.patch)))

/-- The step from one version to the next. -/
def bumpTo (old new : Version) : Except VersionError Bump :=
  if new.lt old then .error (.decreasing old new)
  else if old.major < new.major then .ok .major
  else if old.minor < new.minor then .ok .minor
  else if old.patch < new.patch then .ok .patch
  else .ok .none

end Version

namespace Bump

/-- The version that shows a required bump as a step up from 0.0.0.  Nothing
asks for less than a patch. -/
def suggested : Bump → Version
  | none => ⟨0, 0, 1, Option.none⟩
  | patch => ⟨0, 0, 1, Option.none⟩
  | minor => ⟨0, 1, 0, Option.none⟩
  | major => ⟨1, 0, 0, Option.none⟩

end Bump

namespace VersionError

/-- What is said about a refused version. -/
def message : VersionError → String
  | unreadable text => s!"Version {text} cannot be parsed as a semantic version"
  | tooManyDigits count =>
    s!"Exceeds the limit (4300 digits) for integer string conversion: value has {count} digits; use sys.set_int_max_str_digits() to increase the limit"
  | decreasing old new =>
    s!"Version {new} is lower than {old}; the new version must not decrease"

end VersionError

end ReleaseGate
