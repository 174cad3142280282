import Std.Time.Format
import TraceLog.Replay

/-!
# The Program

The command as a program. It looks up the files and directories that its arguments name,
carries the command out on this picture of them, and then writes back the files that differ,
prints the output, and exits with the status of the command.

## Main definitions

* `Program.picture`: the files and directories that a command line names.
* `Program.replay`: the command that replays a trace.
* `main`: the program.
-/

namespace TraceLog.Program

/-- The places that a path goes through. -/
def placesOf (directory path : FilePath) : List Place :=
  (List.range (path.parts.length + 1)).map fun n =>
    (FilePath.absolute { path with parts := path.parts.take n } directory).parts

/-- The text of a place. -/
def pathOf (place : Place) : String :=
  FilePath.toText ⟨"/", place⟩

/-- Adds what is found on the way to a place: the directories, and the file at its end. What
is neither is taken for an empty file. -/
def look (tree : FileTree) (place : Place) : IO FileTree := do
  let top ← IO.currentDir
  let mut tree := tree
  for n in List.range (place.length + 1) do
    let here := place.take n
    match ← (top / pathOf here).metadata.toBaseIO with
    | .error _ => return tree
    | .ok found =>
      match found.type with
      | .dir => tree := tree.addDirectory here
      | .file => tree := tree.putFile here (← IO.FS.readBinFile (top / pathOf here)).toList
      | _ => tree := tree.putFile here []
  return tree

/-- The files and directories that some path texts name. -/
def picture (directory : FilePath) (paths : List String) : IO FileTree :=
  let named := paths.filter fun path => !path.toList.contains '\x00'
  (named.flatMap fun path => placesOf directory (.ofText path)).foldlM look {}

/-- The path texts that a command line names. -/
def pathsOf (arguments : List String) (environment : Options.Variables) : List String :=
  match OptionReader.standard.arguments arguments with
  | .error _ => []
  | .ok given =>
    given.positional.take 1 ++ given.file?.toList ++
      (environment.find? "SIMLOG_FILE_PATH").toList

/-- Writes back the files whose content has changed. -/
def store (before after : FileTree) : IO Unit := do
  let top ← IO.currentDir
  for (place, content) in after.files do
    if before.content? place ≠ some content then
      IO.FS.writeBinFile (top / pathOf place) ⟨content.toArray⟩

/-- The environment variables of the command that are set. -/
def readVariables : IO Options.Variables :=
  ["SIMLOG_LEVEL", "SIMLOG_FORMAT", "SIMLOG_CLOCK_PREFIX", "SIMLOG_FILE_PATH"].filterMapM
    fun name => do return (← IO.getEnv name).map (name, ·)

/-- The standard input, if the command reads its trace from there. -/
def readInput (arguments : List String) : IO (List UInt8) := do
  if (pathsOf arguments []).head? = some "-" then
    return (← (← IO.getStdin).readBinToEnd).toList
  else return []

/-- The number of the process, where the system tells it. -/
def processNumber : IO UInt32 := do
  match ← (IO.FS.readFile "/proc/self/stat").toBaseIO with
  | .ok stat => return (((stat.takeWhile Char.isDigit).toNat?).getD 0).toUInt32
  | .error _ => return 0

/-- The moment of the command. -/
def now : IO Moment := do
  let nanoseconds := (← Std.Time.Timestamp.now).toNanosecondsSinceUnixEpoch.toInt
  let created :=
    Number.Binary64.ofRatio (nanoseconds < 0) nanoseconds.natAbs 1000000000
  let thread ← IO.getTID
  let process ← processNumber
  if inRange : created.isWithin clockRange = true then
    return { created, inRange, thread, process }
  else return { thread, process }

/-- What is reported of a fault that ends the command. -/
def reportOf : Replay.End → String
  | .failed fault => fault.lastLine
  | _ => ""

/-- The command that replays a trace. -/
def replay (arguments : List String) : IO UInt32 := do
  let directory := FilePath.ofText (← IO.currentDir).toString
  let environment ← readVariables
  let files ← picture directory (pathsOf arguments environment)
  let time := (← Std.Time.DateTime.now).format "uuuu-MM-dd HH:mm:ss"
  let moment ← now
  let result := Replay.run .standard { directory } (fun _ => moment) arguments environment
    (← readInput arguments) files
  store files result.scene.outlets.files
  IO.print (result.output time)
  IO.eprint (result.errorOutput ++ reportOf result.ending)
  return result.status.toUInt32

end TraceLog.Program

/-- Runs the command that the first argument names. -/
def main : List String → IO UInt32
  | "replay" :: arguments => TraceLog.Program.replay arguments
  | arguments => do
    let complaint := match arguments with
      | [] => "Missing command."
      | name :: _ => "No such command " ++ TraceLog.Text.quoted name ++ "."
    IO.eprint ("Usage: cli [OPTIONS] COMMAND [ARGS]...\n\nError: " ++ complaint ++ "\n")
    return 2
