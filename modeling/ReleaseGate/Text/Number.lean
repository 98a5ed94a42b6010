/-
ReleaseGate/Text/Number.lean

Numbers in loose data, written in ASCII: whole numbers and decimals.

Blanks around a number do not count.  Single underscores may stand inside
it.  A whole number may end in a point with zeros only after it.  A decimal
has digits on at least one side of its point, and may have an exponent; the
words `inf`, `infinity` and `nan` are decimals too, in any letters.
-/
import ReleaseGate.Decimal.Shortest
import ReleaseGate.Text.Integer

namespace ReleaseGate.Text

/-- White space around a number.  The four ASCII separators are not in it. -/
def isSpace (c : Char) : Bool := isBlank c && !(28 ≤ c.toNat && c.toNat ≤ 31)

/-- A text without the spaces at its start and end. -/
def trim (s : List Char) : List Char :=
  ((s.dropWhile isSpace).reverse.dropWhile isSpace).reverse

/-- There are two underscores next to each other. -/
def hasDoubleUnderscore : List Char → Bool
  | '_' :: '_' :: _ => true
  | _ :: rest => hasDoubleUnderscore rest
  | [] => false

/-- A text without its underscores, if they stand alone and inside. -/
def withoutUnderscores? (s : List Char) : Option (List Char) :=
  if !s.contains '_' || s.head? = some '_' || s.getLast? = some '_' || hasDoubleUnderscore s then
    none
  else some (s.filter (· ≠ '_'))

/-! ### Whole numbers -/

/-- A sign and ASCII digits. -/
def plainInteger? (s : List Char) : Option Int :=
  let (negative, digits) := splitSign s
  if digits.isEmpty || !digits.all Char.isDigit then none
  else
    let n := Int.ofNat (digitsValue digits)
    some (if negative then -n else n)

/-- A text without a point that has zeros only after it. -/
def withoutZeroFraction (s : List Char) : List Char :=
  match s.dropWhile (· ≠ '.') with
  | _ :: zeros => if zeros.all (· = '0') then s.takeWhile (· ≠ '.') else s
  | [] => s

/-- Reads a whole number; the text has no spaces around it. -/
def wholeNumber? (s : List Char) : Option Int :=
  let s := withoutZeroFraction s
  (plainInteger? s).orElse fun _ => (withoutUnderscores? s).bind plainInteger?

/-! ### Decimals -/

/-- An exponent, if the text is one; no text at all means zero. -/
def exponent? : List Char → Option Int
  | [] => some 0
  | c :: rest => if c = 'e' || c = 'E' then plainInteger? rest else none

/-- Digits with at most one point, and an exponent. -/
def unsignedDecimal? (s : List Char) : Option Float :=
  let whole := s.takeWhile Char.isDigit
  let rest := s.drop whole.length
  let hasPoint := rest.head? = some '.'
  let fraction := if hasPoint then (rest.drop 1).takeWhile Char.isDigit else []
  let rest := if hasPoint then rest.drop (1 + fraction.length) else rest
  if whole.isEmpty && fraction.isEmpty then none
  else
    (exponent? rest).map fun e =>
      Decimal.toFloat (digitsValue (whole ++ fraction)) (e - fraction.length)

/-- The decimals that are words. -/
def decimalWord? (s : List Char) : Option Float :=
  match String.ofList (s.map Char.toLower) with
  | "inf" | "infinity" => some (1.0 / 0.0)
  | "nan" => some (0.0 / 0.0)
  | _ => none

/-- A sign and a decimal. -/
def plainDecimal? (s : List Char) : Option Float :=
  let (negative, rest) := splitSign s
  ((unsignedDecimal? rest).orElse fun _ => decimalWord? rest).map fun x =>
    if negative then -x else x

/-- Reads a decimal. -/
def decimal? (s : List Char) : Option Float :=
  (plainDecimal? (trim s)).orElse fun _ => (withoutUnderscores? s).bind plainDecimal?

end ReleaseGate.Text
