/-
ReleaseGate/Text/Quoted.lean

Texts and byte strings as they are shown inside a message: in quotes, with
what would not show written as an escape.

The quotes are single ones, unless the text holds a single quote and no
double one.  A backslash and the quote itself get a backslash in front,
line ends and tabs have short escapes, and any other character that does
not print is given by its code.
-/
import ReleaseGate.Text.Printable

namespace ReleaseGate.Text

/-- A number in small hexadecimal digits, filled up with zeros to `width`. -/
def hex (width : Nat) (n : Nat) : List Char :=
  let digits := Nat.toDigits 16 n
  List.replicate (width - digits.length) '0' ++ digits

/-- The quote that a text is shown in. -/
def quoteFor (s : List Char) : Char :=
  if s.contains '\'' && !s.contains '"' then '"' else '\''

/-- A character by its code, in the shortest of three forms. -/
def codeEscape (n : Nat) : List Char :=
  if n < 0x100 then '\\' :: 'x' :: hex 2 n
  else if n < 0x10000 then '\\' :: 'u' :: hex 4 n
  else '\\' :: 'U' :: hex 8 n

/-- One character between the quotes `q`. -/
def quoteChar (q c : Char) : List Char :=
  if c = q || c = '\\' then ['\\', c]
  else if c = '\n' then ['\\', 'n']
  else if c = '\r' then ['\\', 'r']
  else if c = '\t' then ['\\', 't']
  else if isPrintable c then [c]
  else codeEscape c.toNat

/-- A text in quotes. -/
def quote (s : List Char) : List Char :=
  let q := quoteFor s
  q :: s.flatMap (quoteChar q) ++ [q]

/-- `quote` on strings. -/
def quoted (s : String) : String := String.ofList (quote s.toList)

/-- One byte between the quotes `q`. -/
def quoteByte (q : Char) (b : UInt8) : List Char :=
  if 0x20 ≤ b && b < 0x7F || b = 9 || b = 10 || b = 13 then
    quoteChar q (Char.ofNat b.toNat)
  else codeEscape b.toNat

/-- A byte string in quotes, marked by the letter `b` in front. -/
def quoteBytes (bytes : List UInt8) : List Char :=
  let q := quoteFor (bytes.map fun b => Char.ofNat b.toNat)
  'b' :: q :: bytes.flatMap (quoteByte q) ++ [q]

end ReleaseGate.Text
