/-
ReleaseGate/Main.lean

The program.

It reads the files that the words of its command line name, runs the gate on
them, and writes what the run has changed.  It reaches no server and starts
no other program itself: a release that has to be fetched, or that differs
from the one before it, needs a caller of `Gate.run` with a client and an
engine.
-/
import ReleaseGate.Cli.Run
import ReleaseGate.Clock
import Std.Time.DateTime.Timestamp

namespace ReleaseGate.Program

/-- The paths that the words of a command line may name. -/
def pathsNamed (cwd : Path) (words : List String) : List Path :=
  let read : Except Cli.Stop Cli.Arguments := Cli.Arguments.parse (words.map String.toList)
  let values := ((read.toOption.getD {}).values).filterMap Prod.snd
  values.flatMap fun s =>
    let bare := (Path.ofChars s).seenFrom cwd
    match Location.split s with
    | .ok l => if l.isLocal then [bare] else [bare, l.filePath]
    | .error _ => [bare]

/-- Takes the file at a path into a tree, if there is one. -/
def takeFile (t : FileTree) (path : Path) : IO FileTree := do
  try
    let content ← IO.FS.readBinFile path.text
    let t := (t.makeDirs [] path.parent).1
    return (t.write [] path.text content).toOption.getD t
  catch _ => return t

/-- Writes the files of a tree that another one does not have. -/
def putFiles (before after : FileTree) : IO Unit := do
  for (place, node) in after.nodes.reverse do
    if before.get? place != some node then
      let path := FileTree.placeText place
      match node with
      | .dir => IO.FS.createDirAll path
      | .file content => IO.FS.writeBinFile path content
      | .link _ => pure ()

/-- The variables of the environment that hold settings. -/
def settingVariables : IO (List (String × String)) := do
  let mut found := []
  for name in Settings.names do
    let full := (Settings.variableStart ++ name).map Char.toUpper
    if let some value ← IO.getEnv full then found := found ++ [(full, value)]
  return found

/-- Runs a command line. -/
def run (words : List String) : IO Cli.Output := do
  let cwd := Path.ofString (toString (← IO.currentDir))
  let now ← Std.Time.Timestamp.now
  let mut files := ((FileTree.mk []).makeDirs [] cwd).1
  for path in pathsNamed cwd words do
    files ← takeFile files path
  let host : Host := {
    workingDir := cwd
    tempDir := .ofString "/tmp"
    server := fun _ _ => .failure "no network"
    process := fun _ => .absent
    environment := ← settingVariables
    now := Clock.text now.toSecondsSinceUnixEpoch.val.toNat }
  let (output, machine) := (Cli.run host none words).run { files := (files.makeDirs [] host.tempDir).1 }
  putFiles files machine.files
  return output

end ReleaseGate.Program

/-- Prints what a run prints and ends with its status. -/
def main (words : List String) : IO UInt32 := do
  let output ← ReleaseGate.Program.run words
  (← IO.getStdout).putStr output.out
  (← IO.getStderr).putStr output.err
  return output.status.toUInt32
