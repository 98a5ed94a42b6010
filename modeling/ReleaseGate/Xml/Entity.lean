/-
ReleaseGate/Xml/Entity.lean

Entities, and the text of attribute values with all references resolved.

An entity that is being read may not be referred to, so it moves from the
closed entities to the opened ones while its text is expanded.  There are
finitely many closed entities, which bounds the nesting.  What bounds the
size is the allowance: expansion may not make a document more than a
hundred times as large once it is past eight mebibytes.
-/
import ReleaseGate.Xml.Scan

namespace ReleaseGate.Xml

/-- What a declared entity stands for. -/
inductive EntityBody where
  /-- A text given in the declaration. -/
  | internal (text : List Char)
  /-- A text kept elsewhere, which is not read. -/
  | external
  /-- Data of another kind, kept elsewhere. -/
  | unparsed
  deriving DecidableEq, Repr

/-- A declared entity. -/
structure Entity where
  name : List Char
  body : EntityBody
  deriving DecidableEq, Repr

/-- The entities a reference may name. -/
structure Entities where
  /-- Entities that are not being read, first declarations first. -/
  closed : List Entity := []
  /-- Names of the entities that are being read. -/
  opened : List (List Char) := []
  /-- Whether a reference to an unknown entity is an error.  It is none
  where the declaration may stand in a document that is not read. -/
  complete : Bool := true
  deriving Repr

/-- What a reference leads to. -/
inductive Entities.Found where
  | unknown
  | reading
  | known (body : EntityBody)
  deriving DecidableEq, Repr

namespace Entities

/-- Finds the entity with a name. -/
def find (es : Entities) (n : List Char) : Found :=
  if es.opened.contains n then .reading
  else
    match es.closed.find? (·.name == n) with
    | some e => .known e.body
    | none => .unknown

/-- Starts to read the entity with a name. -/
def enter (es : Entities) (n : List Char) : Entities :=
  { es with closed := es.closed.filter (·.name ≠ n), opened := n :: es.opened }

/-- Adds a declaration, unless the name has one already. -/
def declare (es : Entities) (e : Entity) : Entities :=
  if es.closed.any (·.name == e.name) then es else { es with closed := es.closed ++ [e] }

end Entities

/-- How large a document is, and how much its entities added so far. -/
structure Allowance where
  size : Nat
  added : Nat := 0
  deriving Repr

/-- Uses up the allowance for one expansion. -/
def Allowance.spend (a : Allowance) (text : List Char) : Except Error Allowance :=
  let added := a.added + Text.Utf8.size text
  if 8388608 ≤ a.size + added && 100 * a.size < a.size + added then .error .amplification
  else .ok { a with added }

/-- The text of a value with its references resolved, put in front of
`done`, which is reversed. -/
def resolve (es : Entities) (a : Allowance) (ps : List Piece) (done : List Char) :
    Except Error (List Char × Allowance) :=
  match ps with
  | [] => .ok (done, a)
  | .char c :: rest => resolve es a rest (c :: done)
  | .space :: rest => resolve es a rest (' ' :: done)
  | .wrong :: _ => .error .invalidToken
  | .reference (.code n) :: rest =>
    match charOfCode? n with
    | some c => resolve es a rest (c :: done)
    | none => .error .invalidCode
  | .reference (.entity n) :: rest =>
    match builtin? n with
    | some c => resolve es a rest (c :: done)
    | none =>
      match es.find n with
      | .unknown =>
        if es.complete then .error .undefinedEntity else resolve es a rest done
      | .reading => .error .recursiveEntity
      | .known .unparsed => .error .binaryEntity
      | .known .external => .error .externalInAttribute
      | .known (.internal text) =>
        let inner := es.enter n
        if _h : inner.closed.length < es.closed.length then
          match a.spend text with
          | .error e => .error e
          | .ok a =>
            match resolve inner a (wholePieces true text) done with
            | .error e => .error e
            | .ok (done, a) => resolve es a rest done
        else .error .recursiveEntity
  termination_by (es.closed.length, ps.length)

/-- Makes one space of each run of spaces; `glued` says that a space just
before counts as part of the run. -/
def squeeze (glued : Bool) : List Char → List Char
  | [] => []
  | c :: rest =>
    if c = ' ' then if glued then squeeze true rest else ' ' :: squeeze true rest
    else c :: squeeze false rest

/-- A value whose type is not plain text: spaces at the ends are dropped and
runs of spaces become one. -/
def collapse (s : List Char) : List Char :=
  squeeze true (s.reverse.dropWhile (· = ' ')).reverse

/-- The text of an attribute value. -/
def attributeText (es : Entities) (a : Allowance) (plain : Bool) (ps : List Piece) :
    Except Error (List Char × Allowance) := do
  let (done, a) ← resolve es a ps []
  let text := done.reverse
  return (if plain then text else collapse text, a)

end ReleaseGate.Xml
