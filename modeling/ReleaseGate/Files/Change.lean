/-
ReleaseGate/Files/Change.lean

Reading a tree of files, and the ways to change it.

Each operation takes the directory from which relative paths are seen.  It
gives the new tree, or the error with the path as it was given.
-/
import ReleaseGate.Files.Walk
import ReleaseGate.Path

namespace ReleaseGate.FileTree

/-- Names the path at which a fault was met. -/
def blame (path : String) (answer : Except FileFault α) : Except FileError α :=
  answer.mapError fun fault => ⟨fault, some path, none⟩

/-- The content of a file. -/
def read (t : FileTree) (dir : Place) (path : String) : Except FileError ByteArray :=
  blame path do
    match ← t.lookup dir path with
    | .file content => return content
    | _ => throw .isDirectory

/-- Writes a file, in place of what it held. -/
def write (t : FileTree) (dir : Place) (path : String) (content : ByteArray) :
    Except FileError FileTree :=
  blame path do
    let place ← t.locate dir path true
    match t.get? place with
    | some .dir => throw .isDirectory
    | _ => return t.put place (.file content)

/-- Puts a node where nothing is yet. -/
def add (t : FileTree) (dir : Place) (path : String) (node : Node) : Except FileError FileTree :=
  blame path do
    let place ← t.locate dir path false
    match t.get? place with
    | some _ => throw .exists
    | none => return t.put place node

/-- Takes a file or a link away. -/
def remove (t : FileTree) (dir : Place) (path : String) : Except FileError FileTree :=
  blame path do
    let place ← t.locate dir path false
    match t.get? place with
    | none => throw .missing
    | some .dir => throw .isDirectory
    | some _ => return t.erase place

/-- Takes away whatever is at a path, with all that is below it. -/
def removeAll (t : FileTree) (dir : Place) (path : String) : Except FileError FileTree :=
  blame path do
    let place ← t.locate dir path false
    return t.eraseAll place

/-- Moves a file to another path, in place of a file there. -/
def move (t : FileTree) (dir : Place) (source target : String) : Except FileError FileTree :=
  Except.mapError (fun fault => ⟨fault, some source, some target⟩) do
    let place ← t.locate dir source false
    let newPlace ← t.locate dir target false
    match t.get? place, t.get? newPlace with
    | none, _ => throw .missing
    | _, some .dir => throw .isDirectory
    | some node, _ => return (t.erase place).put newPlace node

/-- A directory that is there already is as good as a new one. -/
def orExisting (t : FileTree) (dir : Place) (path : String) (e : FileError) :
    Except FileError FileTree := do
  if ← blame path (t.isDir dir path) then return t else throw e

/-- Makes a directory, unless it is there. -/
def makeDir (t : FileTree) (dir : Place) (path : String) : Except FileError FileTree :=
  match t.add dir path .dir with
  | .ok t => .ok t
  | .error e =>
    if e.fault = .missing || e.fault = .nullCharacter then .error e
    else t.orExisting dir path e

/-- Makes a directory and the directories that lead to it, unless they are
there.  What was made stays when a later one fails. -/
def makeDirs (t : FileTree) (dir : Place) (path : Path) : FileTree × Option FileError :=
  match t.makeDir dir path.text with
  | .ok t => (t, none)
  | .error e =>
    if _hn : e.fault = .missing ∧ 0 < path.names.length then
      match t.makeDirs dir path.parent with
      | (t, some e) => (t, some e)
      | (t, none) =>
        match t.makeDir dir path.text with
        | .ok t => (t, none)
        | .error e => (t, some e)
    else (t, some e)
  termination_by path.names.length
  decreasing_by simp only [Path.parent, List.length_dropLast]; omega

end ReleaseGate.FileTree
