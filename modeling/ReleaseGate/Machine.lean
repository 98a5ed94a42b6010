/-
ReleaseGate/Machine.lean

The machine that a check runs on.

A `Machine` is what a run changes: the files, the number of the next
temporary name, the requests that were sent and the calls that were made.
A `Host` is what a run finds and leaves alone: its directories, the servers,
the difference tool as a program, the variables and the clock, and the
libraries that read archives and send requests.

An `Action` changes the machine and gives a value or fails.  What it changed
before it fails stays changed.
-/
import ReleaseGate.Digest
import ReleaseGate.Failure
import ReleaseGate.Files.Change
import ReleaseGate.Net.Redirect
import ReleaseGate.Text.Lines

namespace ReleaseGate

/-- What a run changes. -/
structure Machine where
  files : FileTree := {}
  /-- The number of the next temporary name. -/
  nextName : Nat := 1
  /-- All requests so far. -/
  requests : List Net.Request := []
  /-- All calls of an engine so far, each one with its arguments. -/
  calls : List (List String) := []
  deriving Inhabited

/-- What a program writes while it runs. -/
inductive Written where
  | bytes (content : ByteArray)
  /-- A text, from a caller who runs the program in its own way. -/
  | text (s : String)
  deriving Inhabited

instance : Coe String Written := ⟨.text⟩

/-- What was written as a text; of bytes, with all line ends as line feeds. -/
def Written.read : Written → Except Text.Utf8.Fault String
  | bytes content => do
    let text ← Text.Utf8.decode content.toList
    return String.ofList (Text.unifyLineEnds text)
  | text s => .ok s

/-- What becomes of starting a program. -/
inductive ProcessOutcome where
  /-- There is no such program. -/
  | absent
  /-- The system refuses, for a numbered reason. -/
  | refused (number : Int) (text : String)
  /-- There is a null character in the command. -/
  | nullCharacter
  /-- The program ends with a status, having written errors, perhaps a report,
  and whatever else. -/
  | exited (status : Int) (errors : Written) (report : Option ByteArray) (output : Written := "")
  deriving Inhabited

/-- What a run finds. -/
structure Host where
  /-- The current directory, without links. -/
  workingDir : Path
  /-- The directory of temporary files. -/
  tempDir : Path
  server : Net.Server
  /-- What starting a command leads to. -/
  process : List String → ProcessOutcome
  /-- The variables of the environment. -/
  environment : List (String × String) := []
  /-- The time of day. -/
  now : String
  /-- The library that requests are sent with. -/
  library : Net.Library := .usual
  /-- How archives are read. -/
  archives : Archive.Reader := {}

/-- A path as a place, its names taken as they stand. -/
def Path.place (p : Path) : Place := (p.names.map String.ofList).reverse

/-- The place of the current directory. -/
def Host.here (host : Host) : Place := host.workingDir.place

/-- A step of a run. -/
abbrev Action (α : Type) := ExceptT Failure (StateM Machine) α

namespace Action

/-- Fails with a cause of its own kind. -/
def orFail (cause : ε → Failure) : Except ε α → Action α
  | .ok a => pure a
  | .error e => throw (cause e)

/-- The files as they are. -/
def files : Action FileTree := return (← get).files

/-- Replaces the files. -/
def setFiles (t : FileTree) : Action Unit := modify fun m => { m with files := t }

/-- Changes the files. -/
def changeFiles (change : FileTree → Except FileError FileTree) : Action Unit := do
  setFiles (← orFail .file (change (← files)))

/-- Does something before a failure goes on. -/
def orElseDo (action : Action α) (cleanUp : Action Unit) : Action α :=
  tryCatch action fun e => do
    cleanUp
    throw e

/-! ### Files -/

/-- The content of a file. -/
def load (host : Host) (path : String) : Action ByteArray := do
  orFail .file ((← files).read host.here path)

/-- Writes a file. -/
def store (host : Host) (path : String) (content : ByteArray) : Action Unit :=
  changeFiles fun t => t.write host.here path content

/-- Takes a file away. -/
def unlink (host : Host) (path : String) : Action Unit :=
  changeFiles fun t => t.remove host.here path

/-- Takes a directory away with all that is in it. -/
def clear (host : Host) (path : String) : Action Unit :=
  changeFiles fun t => t.removeAll host.here path

/-- A path leads to a regular file. -/
def isFile (host : Host) (path : String) : Action Bool := do
  orFail .file (FileTree.blame path ((← files).isFile host.here path))

/-- Makes a directory and those that lead to it. -/
def makeDirs (host : Host) (path : Path) : Action Unit := do
  let (t, e?) := (← files).makeDirs host.here path
  setFiles t
  match e? with
  | some e => throw (.file e)
  | none => return

/-- The text of a file, with all line ends as line feeds. -/
def loadText (host : Host) (path : String) : Action (List Char) := do
  let content ← load host path
  let text ← orFail .utf8 (Text.Utf8.decode content.toList)
  return Text.unifyLineEnds text

/-! ### Temporary names -/

/-- How many names are tried. -/
def maxTries : Nat := 10000

/-- A number in eight digits or more. -/
def paddedNumber (n : Nat) : List Char :=
  let digits := Text.decimal n
  List.replicate (8 - digits.length) '0' ++ digits

/-- The number of the next temporary name. -/
def takeNumber : Action Nat :=
  modifyGet fun m => (m.nextName, { m with nextName := m.nextName + 1 })

/-- Puts a node under a name in a directory that nothing has yet, with a
number between two given texts. -/
def createFresh (host : Host) (dir : Path) (before after : List Char) (node : Node) :
    Nat → Action Path
  | 0 => throw (.file ⟨.noFreeName, none, none⟩)
  | tries + 1 => do
    let path := dir.child (before ++ paddedNumber (← takeNumber) ++ after)
    match (← files).add host.here path.text node with
    | .ok t =>
      setFiles t
      return path
    | .error e =>
      if e.fault = .exists then createFresh host dir before after node tries
      else throw (.file e)

/-- Makes an empty file under a fresh name in a directory. -/
def newTempFile (host : Host) (dir : Path) (before after : List Char) : Action Path :=
  createFresh host (dir.seenFrom host.workingDir).collapsed before after (.file .empty) maxTries

/-- Makes a directory under a fresh name among the temporary files. -/
def newTempDir (host : Host) (before : List Char) : Action Path :=
  createFresh host host.tempDir before [] .dir maxTries

/-! ### Sameness -/

/-- The fingerprint of a file. -/
def fingerprint (host : Host) (path : String) : Action String := do
  return Digest.ofPieces (← load host path)

/-- The real place of a path. -/
def realPlace (host : Host) (path : String) : Action Place := do
  match (← files).realPlace? host.here (Path.ofString path).text with
  | .ok place => return place
  | .error .nullCharacter => throw (.file ⟨.nullCharacter, none, none⟩)
  | .error (.loop place) => throw (.linkLoop place)

/-- Two files have the same content.  A file is not read to be compared with
itself. -/
def sameFiles (host : Host) (a b : String) : Action Bool := do
  let first ← realPlace host a
  let second ← realPlace host b
  if first = second then return true
  let first ← fingerprint host a
  let second ← fingerprint host b
  return first == second

/-! ### Traces -/

/-- Records a call of an engine. -/
def recordCall (call : List String) : Action Unit :=
  modify fun m => { m with calls := m.calls ++ [call] }

/-- Gets the file at an address. -/
def fetch (host : Host) (client : Net.Client) (address : String) : Action Net.Outcome :=
  modifyGet fun m =>
    let (outcome, sent) := Net.get host.library host.server client address m.requests
    (outcome, { m with requests := sent })

end Action

end ReleaseGate
