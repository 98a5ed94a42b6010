/-
ReleaseGate/ChangeModel.lean

What a comparison of two archives found: one record per class, each with
its members.

A record says how the class changed, whether old callers still link and
still compile, and how severe the change is.  `ChangeModel.requiredBump`
folds the severities into one bump, never below a patch.
-/
import ReleaseGate.Version

namespace ReleaseGate

/-- How a class or a member differs from its old self. -/
inductive ChangeStatus where
  | new
  | removed
  | modified
  | unchanged
  deriving DecidableEq, Repr, Inhabited

namespace ChangeStatus

/-- All ways to differ. -/
def all : List ChangeStatus := [new, removed, modified, unchanged]

/-- The name of a status in reports and data. -/
def name : ChangeStatus → String
  | new => "NEW"
  | removed => "REMOVED"
  | modified => "MODIFIED"
  | unchanged => "UNCHANGED"

/-- The status with a given name. -/
def ofName? (s : String) : Option ChangeStatus := all.find? (·.name == s)

end ChangeStatus

/-- A change to a method, field, constructor or supertype of a class. -/
structure MemberChange where
  kind : String
  name : String
  status : ChangeStatus
  binaryCompatible : Bool := true
  sourceCompatible : Bool := true
  deriving DecidableEq, Repr, Inhabited

/-- Everything recorded about one class. -/
structure ClassChange where
  /-- The fully qualified name. -/
  name : String
  status : ChangeStatus
  binaryCompatible : Bool := true
  sourceCompatible : Bool := true
  severity : Bump := .patch
  /-- The codes of the rules that the change breaks. -/
  codes : List String := []
  members : List MemberChange := []
  deriving DecidableEq, Repr, Inhabited

/-- The changes between two archives. -/
structure ChangeModel where
  changes : List ClassChange := []
  deriving DecidableEq, Repr, Inhabited

/-- Old callers both link and compile. -/
def MemberChange.compatible (m : MemberChange) : Bool :=
  m.binaryCompatible && m.sourceCompatible

namespace ClassChange

/-- Old callers both link and compile. -/
def compatible (c : ClassChange) : Bool := c.binaryCompatible && c.sourceCompatible

/-- The part of a qualified name before its last point; empty without one. -/
def packageOf (name : List Char) : List Char :=
  ((name.reverse.dropWhile (· ≠ '.')).drop 1).reverse

/-- The package that the class belongs to. -/
def package (c : ClassChange) : String := String.ofList (packageOf c.name.toList)

end ClassChange

namespace ChangeModel

/-- Nothing was recorded. -/
def isEmpty (m : ChangeModel) : Bool := m.changes.isEmpty

/-- The bump that the changes require: the most severe record, at least a patch. -/
def requiredBump (m : ChangeModel) : Bump :=
  Bump.worst (.patch :: m.changes.map (·.severity))

/-- The required bump shown as a version. -/
def suggestedVersion (m : ChangeModel) : Version := m.requiredBump.suggested

/-- The records that break old callers. -/
def incompatible (m : ChangeModel) : List ClassChange :=
  m.changes.filter fun c => !c.compatible

end ChangeModel

end ReleaseGate
