import DocSurvey.CommandLine.Colours
import DocSurvey.CommandLine.Program
import Std.Time.DateTime.Timestamp

/-! The program for a terminal. It works on the files that the lines of its input name, as in
`find . | docaudit coverage`: it reads them, prints what the run prints, and writes what the run
wrote.
-/

namespace DocSurvey.Main

/-- The lines of the input. -/
partial def readLines (input : IO.FS.Stream) : IO (List String) := do
  let line ← input.getLine
  if line.isEmpty then
    return []
  else
    return (line.dropEndWhile Char.isWhitespace).toString :: (← readLines input)

/-- What a name stands for: a file if it can be read, and otherwise a directory. -/
def readNode (name : String) : IO Node := do
  match ← (IO.FS.readBinFile name).toBaseIO with
  | .ok bytes => return .file (String.fromUTF8? bytes)
  | .error _ => return .directory

def readTree (names : List String) : IO FileTree :=
  names.foldlM
    (fun tree name => return ((FileAction.put name (← readNode name)).apply tree).1)
    .empty

/-- Writes what is new in a tree or differs. -/
def writeChanges (before after : FileTree) : IO Unit :=
  after.entries.forM fun (place, node) =>
    let path := "/".intercalate place
    if before.get? place == some node then
      return ()
    else
      match node with
      | .directory => IO.FS.createDirAll path
      | .file (some content) => IO.FS.writeFile path content
      | _ => return ()

def readClock : IO Time.Instant := do
  let elapsed := (← Std.Time.Timestamp.now).toDurationSinceUnixEpoch
  return ⟨elapsed.second.val, elapsed.nano.val.toNat⟩

def readSurroundings : IO CommandLine.Surroundings := do
  let wishes : CommandLine.ColourWishes :=
    { always := ← IO.getEnv "CLICOLOR_FORCE"
      never := ← IO.getEnv "NO_COLOR"
      usually := ← IO.getEnv "CLICOLOR"
      terminal := ← (← IO.getStdout).isTty }
  return {
    tree := ← readTree (← readLines (← IO.getStdin))
    now := ← readClock
    coloured := wishes.coloured
    logFilter := ← IO.getEnv "RUST_LOG" }

end DocSurvey.Main

open DocSurvey in
def main (arguments : List String) : IO UInt32 := do
  let surroundings ← Main.readSurroundings
  let ending := CommandLine.respond arguments surroundings
  IO.print ending.printed
  Main.writeChanges surroundings.tree ending.tree
  return ending.code.toUInt32
