/-
ReleaseGate/Files/Fault.lean

What can go wrong when files are read and changed.

A fault is a cause; most have a number in the system's own list.  An error
adds the path, or the two paths, that the operation was given.
-/
import ReleaseGate.Text.Quoted

namespace ReleaseGate

/-- Why an operation on files is refused. -/
inductive FileFault where
  | missing
  | exists
  | notDirectory
  | isDirectory
  | nameTooLong
  /-- Links that lead on to links, more than are followed. -/
  | tooManyLinks
  /-- The path holds a null character. -/
  | nullCharacter
  /-- All names for a temporary file are in use. -/
  | noFreeName
  deriving DecidableEq, Repr, Inhabited

/-- The number and the wording of a fault, for those that the system counts. -/
def FileFault.entry? : FileFault → Option (Nat × String)
  | missing => some (2, "No such file or directory")
  | «exists» => some (17, "File exists")
  | notDirectory => some (20, "Not a directory")
  | isDirectory => some (21, "Is a directory")
  | nameTooLong => some (36, "File name too long")
  | tooManyLinks => some (40, "Too many levels of symbolic links")
  | noFreeName => some (17, "No usable temporary file name found")
  | nullCharacter => none

/-- A fault and where it was met. -/
structure FileError where
  fault : FileFault
  path : Option String := none
  /-- The second path of an operation on two. -/
  target : Option String := none
  deriving DecidableEq, Repr, Inhabited

namespace FileError

/-- The paths of an error. -/
def paths (e : FileError) : String :=
  match e.path, e.target with
  | none, _ => ""
  | some p, none => ": " ++ Text.quoted p
  | some p, some q => ": " ++ Text.quoted p ++ " -> " ++ Text.quoted q

/-- What is said about an error. -/
def message (e : FileError) : String :=
  match e.fault.entry? with
  | some (number, text) => s!"[Errno {number}] {text}" ++ e.paths
  | none => "embedded null byte"

end FileError

end ReleaseGate
