/-
ReleaseGate/Text/Lines.lean

The lines of a text.

A line ends at a line feed, a carriage return, the two together, or one of
the other separators that Unicode and ASCII know.  The end of the last line
need not be marked, and a marked end starts no further line.
`unifyLineEnds` rewrites the two forms that hold a carriage return.
-/

namespace ReleaseGate.Text

/-- A character that ends a line. -/
def isLineEnd (c : Char) : Bool :=
  let n := c.toNat
  (10 ≤ n && n ≤ 13) || (28 ≤ n && n ≤ 30) || n == 0x85 || n == 0x2028 || n == 0x2029

/-- The lines of a text without their ends. -/
def splitLines : List Char → List (List Char)
  | [] => []
  | '\r' :: '\n' :: rest => [] :: splitLines rest
  | c :: rest =>
    if isLineEnd c then [] :: splitLines rest
    else
      match splitLines rest with
      | [] => [[c]]
      | line :: lines => (c :: line) :: lines

/-- A text in which a carriage return, alone or before a line feed, has
become a line feed. -/
def unifyLineEnds : List Char → List Char
  | [] => []
  | '\r' :: '\n' :: rest => '\n' :: unifyLineEnds rest
  | c :: rest => (if c = '\r' then '\n' else c) :: unifyLineEnds rest

end ReleaseGate.Text
