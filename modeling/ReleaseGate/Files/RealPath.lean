/-
ReleaseGate/Files/RealPath.lean

The real path of a path: the same place without any link on the way.

Names that are not there are taken as they stand.  A link that leads back to
itself has no real path.  `resolve` remembers the links that it has resolved
and those that it is resolving; meeting one of the latter again is a loop.
Each link that it enters is a new one, so the number of nodes in the tree
bounds how deep it goes.
-/
import ReleaseGate.Files.Walk

namespace ReleaseGate.FileTree

/-- What is known about the links met so far: where they lead, or nothing
while they are being resolved. -/
abbrev Links := List (Place × Option Place)

/-- The real place so far, whether no loop was met, and the links met. -/
structure Real where
  place : Place
  isWhole : Bool
  links : Links

/-- A place with some steps added as they stand. -/
def addSteps (place : Place) (path : List String) : Place :=
  path.foldl (fun p n => if n = "." then p else if n = ".." then p.tail else n :: p) place

/-- Takes the steps of a path from a real place.  `enter?` resolves the path
of a link, and the steps after it; without it no link is resolved any more. -/
def resolveWith (t : FileTree) (enter? : Option (Place → List String → Links → Real)) :
    Place → List String → Links → Real
  | here, [], links => ⟨here, true, links⟩
  | here, n :: rest, links =>
    if n = "." then t.resolveWith enter? here rest links
    else if n = ".." then t.resolveWith enter? here.tail rest links
    else
      let next := n :: here
      match t.get? next with
      | some (.link target) =>
        match links.lookup next with
        | some (some place) => t.resolveWith enter? place rest links
        | some none => ⟨addSteps next rest, false, links⟩
        | none =>
          match enter? with
          | none => ⟨addSteps next rest, false, links⟩
          | some enter =>
            let r := enter (startOf here target) (steps target) ((next, none) :: links)
            if r.isWhole then enter r.place rest ((next, some r.place) :: r.links)
            else ⟨addSteps r.place rest, false, r.links⟩
      | _ => t.resolveWith enter? next rest links

/-- Takes the steps of a path from a real place, so many links deep at most. -/
def resolve (t : FileTree) : Nat → Place → List String → Links → Real
  | 0 => t.resolveWith none
  | deeper + 1 => t.resolveWith (some (t.resolve deeper))

/-- A place as a path from the root. -/
def placeText (place : Place) : String := "/" ++ "/".intercalate place.reverse

/-- The real place of a path. -/
def realPlace (t : FileTree) (dir : Place) (path : String) : Place :=
  (t.resolve (t.nodes.length + 1) (startOf dir path) (steps path) []).place

/-- Why a path has no real path. -/
inductive RealPathError where
  | nullCharacter
  /-- Links that lead back to themselves. -/
  | loop (place : Place)
  deriving DecidableEq, Repr

/-- The real place of a path, unless its links lead back to themselves. -/
def realPlace? (t : FileTree) (dir : Place) (path : String) : Except RealPathError Place :=
  if path.toList.contains '\x00' then .error .nullCharacter
  else
    let place := t.realPlace dir path
    match t.lookup [] (placeText place) with
    | .error .tooManyLinks => .error (.loop place)
    | _ => .ok place

end ReleaseGate.FileTree
