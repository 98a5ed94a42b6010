/-
ReleaseGate/Gate/AndroidArchive.lean

Android archives, which hold their classes in an archive of their own.

`AndroidArchive.normalize` puts the inner archive beside the outer one, under
the same name with another suffix.  The new file is written under a
temporary name and moved in place when it is complete, so whatever goes wrong
on the way leaves the place as it was.  Any other archive stays as it is.
-/
import ReleaseGate.Machine

namespace ReleaseGate.AndroidArchive

/-- The suffix of Android archives. -/
def suffix : List Char := ".aar".toList

/-- The suffix of archives with classes. -/
def classSuffix : List Char := ".jar".toList

/-- The name of the inner archive. -/
def classEntry : List Char := "classes.jar".toList

/-- The path names an Android archive; the suffix may be in any letters. -/
def isAndroid (path : Path) : Bool := Text.lower path.suffix == suffix

/-- Where the inner archive is put; a path without a name has no such place. -/
def normalPath? (path : Path) : Option Path := path.withSuffix? classSuffix

/-- What is said about a path without a name to put a suffix on. -/
def noNameMessage (path : Path) : String :=
  s!"PosixPath({Text.quoted path.text}) has an empty name"

/-- An error in a zip file.  Where the file is to blame, its path is named. -/
def zipFailure (path : Path) : Archive.ZipError → Failure
  | .library e => .ofLibrary e
  | e => if e.isStructural then .android path (.notZip e) else .zip e

/-- Fills a temporary file and moves it to its place. -/
def place (host : Host) (temp target : Path) (content : Except Failure ByteArray) : Action Unit := do
  Action.store host temp.text (← Action.orFail id content)
  Action.changeFiles fun t => t.move host.here temp.text target.text

/-- Puts the inner archive of the Android archive at `path` to `target`. -/
def extract (host : Host) (path target : Path) : Action Unit := do
  let data ← Action.load host path.text
  let members ← Action.orFail (zipFailure path) (Archive.directory data)
  match Archive.member? members classEntry with
  | none => throw (.android path .noClasses)
  | some m =>
    let temp ← Action.newTempFile host target.parent ('.' :: target.name ++ ['.']) ".tmp".toList
    let classes := (Archive.contents host.archives data m).mapError (zipFailure path)
    Action.orElseDo (place host temp target classes) (Action.unlink host temp.text)

/-- The archive with the classes of the archive at `path`. -/
def normalize (host : Host) (path : Path) : Action Path :=
  match isAndroid path, normalPath? path with
  | true, some target => do
    extract host path target
    return target
  | _, _ => return path

end ReleaseGate.AndroidArchive
