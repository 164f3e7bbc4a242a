import MoodStore.Cli

/-!
The program: looks at the files that the command line is about, runs it, and prints what it
reports.

A store that other software wrote is not read: what lies at the path is either an empty file, which
is created where there is none, or unusable.
-/

namespace MoodStore.Cli

/-- Something that can be opened for reading lies at the path. -/
def canOpen (path : String) : IO Bool :=
  try
    discard (IO.FS.Handle.mk path .read)
    return true
  catch _ => return false

/-- What lies at the path of a store. The file is created if it can be. -/
def siteAt (path : String) : IO Site :=
  try
    discard (IO.FS.Handle.mk path .append)
    let contents ← IO.FS.readBinFile path
    return .ofForeignFile contents.size
  catch _ => return .unusable

/-- The directories and files on the way to a path. -/
def treeTowards (path : String) : IO FileTree := do
  let mut place : List String := []
  let mut nodes : List (List String × Node) := []
  for name in Text.Path.components path do
    place := if name = ".." then place.dropLast else place ++ [name]
    let text := "/" ++ "/".intercalate place
    if ← canOpen (text ++ "/.") then
      nodes := nodes ++ [(place, .directory)]
    else if ← canOpen text then
      nodes := nodes ++ [(place, .file)]
  return .ofList nodes

def writeLog (dir : String) (events : List Event) : IO Unit := do
  IO.FS.createDirAll dir
  let file ← IO.FS.Handle.mk (Logging.logFile dir) .append
  for event in events do
    file.putStrLn event.line

end MoodStore.Cli

/-- Runs the command line; the exit code says whether the listing was printed. -/
def main (arguments : List String) : IO UInt32 := do
  let logDir ← IO.getEnv MoodStore.Cli.logDirVariable
  let tree ← MoodStore.Cli.treeTowards (logDir.getD "")
  let site ← arguments.head?.elim (pure .absent) MoodStore.Cli.siteAt
  let report := MoodStore.Cli.run arguments logDir tree site
  unless report.logged.isEmpty do
    MoodStore.Cli.writeLog (logDir.getD "") report.logged
  IO.print report.stdout
  IO.eprint report.stderr
  return report.exit.toUInt32
