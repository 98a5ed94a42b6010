/-
ReleaseGate/Text/Integer.lean

Whole numbers as people write them: blanks around them, a sign, digits of
any script, and single underscores between digits.
-/
import ReleaseGate.Text.Blank
import ReleaseGate.Text.Digit

namespace ReleaseGate.Text

/-- The digits of a run in which single underscores may separate them. -/
def groupedDigits? (isDigit : Char → Bool) : List Char → Option (List Char)
  | [] => none
  | [c] => if isDigit c then some [c] else none
  | c :: '_' :: rest => if isDigit c then (groupedDigits? isDigit rest).map (c :: ·) else none
  | c :: rest => if isDigit c then (groupedDigits? isDigit rest).map (c :: ·) else none

/-- Splits off a sign: whether it is a minus, and what follows. -/
def splitSign : List Char → Bool × List Char
  | '-' :: rest => (true, rest)
  | '+' :: rest => (false, rest)
  | s => (false, s)

/-- The most digits that a number may have. -/
def digitLimit : Nat := 4300

/-- Reads a whole number. -/
def integer? (s : List Char) : Option Int := do
  let (negative, rest) := splitSign (strip s)
  let digits ← groupedDigits? isDigit rest
  if digitLimit < digits.length then none
  else
    let n := Int.ofNat (digitsValue digits)
    some (if negative then -n else n)

end ReleaseGate.Text
