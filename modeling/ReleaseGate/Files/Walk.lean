/-
ReleaseGate/Files/Walk.lean

Where a path leads in a tree of files.

A walk starts at the root or at a directory and takes one step for each name
of the path.  The name `.` stays, `..` goes up, and a link is replaced by
the path it holds; at most forty links are followed.  The last name need
not exist: the walk then ends at the free place where it would be.  A slash
at the end of a path asks for a directory.

The walk ends because each step either uses up a name or follows one of the
links that are left: `walkWith` uses up names, and `walk` links.
-/
import ReleaseGate.Files.Fault
import ReleaseGate.Files.Tree
import ReleaseGate.Text.Split

namespace ReleaseGate.FileTree

/-- The longest name of a file in bytes. -/
def maxNameSize : Nat := 255

/-- The longest path in bytes. -/
def maxPathSize : Nat := 4095

/-- How many links one walk follows. -/
def maxLinks : Nat := 40

/-- The names in a path, with a point for a slash at its end. -/
def steps (path : String) : List String :=
  let names := (Text.split '/' path.toList).filter fun n => !n.isEmpty
  (if path.toList.getLast? = some '/' then names ++ [['.']] else names).map String.ofList

/-- Where a path starts, seen from a directory. -/
def startOf (dir : Place) (path : String) : Place :=
  if path.toList.head? = some '/' then [] else dir

/-- Takes the steps of a path from the directory `here`.  A link in the last
step is followed on request only.  Where a link is followed, `follow` takes
its path and the steps that are left, from the place where the link starts. -/
def walkWith (t : FileTree) (followLast : Bool)
    (follow : Place → List String → Except FileFault Place) :
    Place → List String → Except FileFault Place
  | here, [] => .ok here
  | here, n :: rest =>
    if n = "." then t.walkWith followLast follow here rest
    else if n = ".." then t.walkWith followLast follow here.tail rest
    else if maxNameSize < n.utf8ByteSize then .error .nameTooLong
    else
      match t.get? (n :: here) with
      | none => if rest.isEmpty then .ok (n :: here) else .error .missing
      | some (.file _) => if rest.isEmpty then .ok (n :: here) else .error .notDirectory
      | some .dir => t.walkWith followLast follow (n :: here) rest
      | some (.link target) =>
        if rest.isEmpty && !followLast then .ok (n :: here)
        else follow (startOf here target) (steps target ++ rest)

/-- Takes the steps of a path from a directory, following so many links at
most. -/
def walk (t : FileTree) (followLast : Bool) : Nat → Place → List String → Except FileFault Place
  | 0 => t.walkWith followLast fun _ _ => .error .tooManyLinks
  | left + 1 => t.walkWith followLast (t.walk followLast left)

/-- The place that a path leads to from the directory `dir`. -/
def locate (t : FileTree) (dir : Place) (path : String) (followLast : Bool) :
    Except FileFault Place :=
  if path.toList.contains '\x00' then .error .nullCharacter
  else if path.isEmpty then .error .missing
  else if maxPathSize < path.utf8ByteSize then .error .nameTooLong
  else t.walk followLast maxLinks (startOf dir path) (steps path)

/-- What a path leads to; links are followed. -/
def lookup (t : FileTree) (dir : Place) (path : String) : Except FileFault Node := do
  let place ← t.locate dir path true
  match t.get? place with
  | some node => return node
  | none => throw .missing

/-- A question about a path for which most faults mean no. -/
def ask (answer : Except FileFault Node) (p : Node → Bool) : Except FileFault Bool :=
  match answer with
  | .ok node => .ok (p node)
  | .error .nameTooLong => .error .nameTooLong
  | .error _ => .ok false

/-- The path leads to a regular file. -/
def isFile (t : FileTree) (dir : Place) (path : String) : Except FileFault Bool :=
  ask (t.lookup dir path) fun node =>
    match node with
    | .file _ => true
    | _ => false

/-- The path leads to a directory. -/
def isDir (t : FileTree) (dir : Place) (path : String) : Except FileFault Bool :=
  ask (t.lookup dir path) (· == .dir)

end ReleaseGate.FileTree
