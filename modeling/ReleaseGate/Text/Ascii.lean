/-
ReleaseGate/Text/Ascii.lean

Texts that have to be ASCII, and what is said about one that is not.
-/
import ReleaseGate.Text.Quoted

namespace ReleaseGate.Text

/-- A character of ASCII. -/
def isAscii (c : Char) : Bool := c.toNat < 128

/-- The first characters of a text that are not ASCII: how many characters
stand before them, and how many of them there are in a row. -/
structure AsciiFault where
  char : Char
  first : Nat
  count : Nat
  deriving DecidableEq, Repr

/-- The first fault of a text that has to be ASCII. -/
def asciiFault? (s : List Char) : Option AsciiFault :=
  match s.dropWhile isAscii with
  | [] => none
  | c :: rest =>
    some ⟨c, (s.takeWhile isAscii).length, 1 + (rest.takeWhile fun d => !isAscii d).length⟩

/-- What is said about a text that is not ASCII. -/
def AsciiFault.message (f : AsciiFault) : String :=
  if f.count = 1 then
    "'ascii' codec can't encode character '" ++ String.ofList (codeEscape f.char.toNat) ++
      "' in position " ++ toString f.first ++ ": ordinal not in range(128)"
  else
    "'ascii' codec can't encode characters in position " ++ toString f.first ++ "-" ++
      toString (f.first + f.count - 1) ++ ": ordinal not in range(128)"

end ReleaseGate.Text
