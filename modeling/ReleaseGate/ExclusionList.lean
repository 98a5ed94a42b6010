/-
ReleaseGate/ExclusionList.lean

Patterns of packages and classes that a comparison leaves out.

An exclusion file has one pattern a line.  Blanks around a line do not
count, and empty lines and lines that start with `#` are skipped.  The list
keeps the first of equal patterns, in order.
-/
import ReleaseGate.Text.Blank
import ReleaseGate.Text.Lines

namespace ReleaseGate

/-- Patterns in the order in which they apply. -/
structure ExclusionList where
  patterns : List String := []
  deriving DecidableEq, Repr, Inhabited

namespace ExclusionList

/-- The exclusion list of some patterns: of equal ones the first stays. -/
def of (patterns : List String) : ExclusionList := ⟨patterns.eraseDups⟩

/-- A trimmed line that holds a pattern. -/
def isPattern : List Char → Bool
  | [] => false
  | c :: _ => c != '#'

/-- The patterns in the text of an exclusion file, repetitions included. -/
def patternLines (text : List Char) : List (List Char) :=
  ((Text.splitLines text).map Text.strip).filter isPattern

/-- Reads the text of an exclusion file. -/
def parse (text : String) : ExclusionList :=
  of ((patternLines text.toList).map String.ofList)

/-- No pattern at all. -/
def isEmpty (l : ExclusionList) : Bool := l.patterns.isEmpty

end ExclusionList

end ReleaseGate
