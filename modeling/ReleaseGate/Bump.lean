/-
ReleaseGate/Bump.lean

The size of a version step, from no step at all to a major one.

Bumps are ordered by `rank`.  `worst` is the greatest bump of a list, and
`Bump.none` for the empty list: a least upper bound in that order.
-/

namespace ReleaseGate

/-- Which component of a version a change has to raise. -/
inductive Bump where
  | none
  | patch
  | minor
  | major
  deriving DecidableEq, Repr, Inhabited

namespace Bump

/-- The place of a bump in the order of severity. -/
def rank : Bump → Nat
  | none => 0
  | patch => 1
  | minor => 2
  | major => 3

instance : LE Bump := ⟨fun a b => a.rank ≤ b.rank⟩

instance (a b : Bump) : Decidable (a ≤ b) := inferInstanceAs (Decidable (a.rank ≤ b.rank))

/-- All bumps, mildest first. -/
def all : List Bump := [none, patch, minor, major]

/-- The name a bump has in reports and in data. -/
def name : Bump → String
  | none => "NONE"
  | patch => "PATCH"
  | minor => "MINOR"
  | major => "MAJOR"

/-- The bump with a given name. -/
def ofName? (s : String) : Option Bump := all.find? (·.name == s)

/-- The more severe of two bumps. -/
def max (a b : Bump) : Bump := if a.rank < b.rank then b else a

/-- The most severe bump of a list. -/
def worst (bumps : List Bump) : Bump := bumps.foldl max none

theorem rank_injective {a b : Bump} (h : a.rank = b.rank) : a = b := by
  cases a <;> cases b <;> first | rfl | cases h

@[simp] theorem ofName?_name (b : Bump) : ofName? b.name = some b := by
  cases b <;> decide

end Bump

end ReleaseGate
