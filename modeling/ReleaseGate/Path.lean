/-
ReleaseGate/Path.lean

Paths as names of files, without a look at any file.

A path is a root, if it is absolute, and the names after it.  Repeated
slashes and the name `.` say nothing and are dropped on reading; the name
`..` stays, since where it leads depends on the files.  Exactly two slashes
in front are a root of their own.

The suffix of a path starts at the last point of its last name.  A point
that is the first or the last character of the name starts no suffix.
-/
import ReleaseGate.Text.Quoted
import ReleaseGate.Text.Split

namespace ReleaseGate

/-- Where the names of a path start. -/
inductive Root where
  /-- The current directory. -/
  | current
  | slash
  | doubleSlash
  deriving DecidableEq, Repr, Inhabited

/-- What is written in front of the names. -/
def Root.chars : Root → List Char
  | current => []
  | slash => ['/']
  | doubleSlash => ['/', '/']

/-- A path. -/
structure Path where
  root : Root := .current
  names : List (List Char) := []
  deriving DecidableEq, Repr, Inhabited

namespace Path

/-- The root that a text starts with. -/
def rootOf : List Char → Root
  | '/' :: '/' :: '/' :: _ => .slash
  | '/' :: '/' :: _ => .doubleSlash
  | '/' :: _ => .slash
  | _ => .current

/-- A name that leads somewhere. -/
def isName (n : List Char) : Bool := !n.isEmpty && n != ['.']

/-- Reads a path. -/
def ofChars (s : List Char) : Path := ⟨rootOf s, (Text.split '/' s).filter isName⟩

/-- Reads a path. -/
def ofString (s : String) : Path := ofChars s.toList

/-- A path as it is written; the empty one is a point. -/
def chars (p : Path) : List Char :=
  if p.root = .current && p.names.isEmpty then ['.']
  else p.root.chars ++ Text.join '/' p.names

/-- A path as it is written. -/
def text (p : Path) : String := String.ofList p.chars

instance : ToString Path := ⟨text⟩

/-- The path starts at a root. -/
def isAbsolute (p : Path) : Bool := p.root != .current

/-- The last name; empty for a path without names. -/
def name (p : Path) : List Char := p.names.getLast?.getD []

/-- The path without its last name. -/
def parent (p : Path) : Path := { p with names := p.names.dropLast }

/-- The path `q` seen from `p`. -/
def append (p q : Path) : Path :=
  if q.isAbsolute then q else { p with names := p.names ++ q.names }

instance : Append Path := ⟨append⟩

/-- The path with a name added. -/
def child (p : Path) (n : List Char) : Path := { p with names := p.names ++ [n] }

/-- The path seen from the directory `dir`. -/
def seenFrom (p dir : Path) : Path := dir ++ p

/-! ### Suffixes -/

/-- The two parts of a name around the start of its suffix. -/
def splitSuffix (n : List Char) : List Char × List Char :=
  let tail := (n.reverse.takeWhile (· ≠ '.')).reverse
  let stem := n.take (n.length - tail.length - 1)
  if stem.isEmpty || tail.isEmpty || tail.length = n.length then (n, [])
  else (stem, n.drop stem.length)

/-- The suffix of the last name with its point; empty without one. -/
def suffix (p : Path) : List Char := (splitSuffix p.name).2

/-- The last name without its suffix. -/
def stem (p : Path) : List Char := (splitSuffix p.name).1

/-- The path with another suffix; `none` if there is no name to put it on. -/
def withSuffix? (p : Path) (suffix : List Char) : Option Path :=
  if p.name.isEmpty then none else some (p.parent.child (p.stem ++ suffix))

/-! ### Names to the point -/

/-- The names with each `..` taken together with the name before it.  `done`
are the names so far, last one first. -/
def foldUps (isAbsolute : Bool) : List (List Char) → List (List Char) → List (List Char)
  | [], done => done.reverse
  | n :: rest, done =>
    if n = ['.', '.'] then
      match done with
      | [] => foldUps isAbsolute rest (if isAbsolute then [] else [n])
      | d :: others =>
        if d = ['.', '.'] then foldUps isAbsolute rest (n :: done)
        else foldUps isAbsolute rest others
    else foldUps isAbsolute rest (n :: done)

/-- The path with each `..` taken together with the name before it. -/
def collapsed (p : Path) : Path := { p with names := foldUps p.isAbsolute p.names [] }

end Path

end ReleaseGate
