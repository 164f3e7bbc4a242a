import MoodStore.Logging.Config
import MoodStore.Logging.FileTree

/-!
The logging of one process: a state that is written once.

The first successful start fixes the level and the directory. Later starts with the same two
succeed without effect, and any other is refused. The log file is opened by the first event that
is written; while it cannot be opened, events are lost.
-/

namespace MoodStore

/-! ### What the program says about itself -/

namespace Release

def version : String := "0.1.0"

/-- The answer to a health check. -/
def ping : String := "pong"

end Release

/-! ### The state of a process -/

namespace Logging

/-- The settings that a start fixes. -/
structure Active where
  level : Level
  dir : String
  deriving DecidableEq, Repr

/-- The file in which the events of a log directory are collected. -/
def logFile (dir : String) : String := Text.Path.join dir "saypi_rCURRENT.log"

/-- The logging state of a process: the settings under which it is active, whether another logger
took its place, and the log file, which is opened for the first event and lists them in order. -/
structure State where
  active : Option Active
  occupied : Bool
  tree : FileTree
  fileOpen : Bool
  written : List Event
  deriving DecidableEq, Repr

namespace State

/-- A process that has not logged anything. -/
def initial (tree : FileTree) : State := ⟨none, false, tree, false, []⟩

/-- Opens the log file in a directory, unless it is open already. -/
def openLogFile (state : State) (dir : String) : Except PathError State :=
  if state.fileOpen then .ok state
  else (state.tree.openFile (logFile dir)).map fun tree => { state with tree, fileOpen := true }

/-- Writes an event, if logging is active, the level lets it pass and the log file can be opened. -/
def emit (state : State) (event : Event) : State :=
  match state.active with
  | some active =>
    if active.level.passes event.level then
      match state.openLogFile active.dir with
      | .ok opened => { opened with written := opened.written ++ [event] }
      | .error _ => state
    else state
  | none => state

def started (active : Active) : Event :=
  .of .info "logging_start" "core" "ok"
    [("level", active.level.name), ("log_dir", active.dir), ("version", Release.version)]

/-- Starts logging: the directory is created, and then the logger installed. Directories created
on the way stay even if the start fails. -/
def start (state : State) (wanted : Active) : Except LoggingError Unit × State :=
  let (created, tree) := state.tree.createAll wanted.dir
  let state := { state with tree }
  match created with
  | .error cause => (.error (.createDirectory wanted.dir cause.message), state)
  | .ok () =>
    if state.occupied then
      (.error (.backend "a logger is already installed"), state)
    else
      (.ok (), { state with active := some wanted }.emit (started wanted))

/-- Logging is active; only the same settings are accepted. -/
def agree (active wanted : Active) : Except LoggingError Unit :=
  if !Text.Path.same active.dir wanted.dir then
    .error (.conflict "directory" active.dir wanted.dir)
  else if active.level ≠ wanted.level then
    .error (.conflict "level" active.level.name wanted.level.name)
  else .ok ()

/-- Asks for logging with these settings. -/
def init (state : State) (config : Config) : Except LoggingError Unit × State :=
  match normalizeLevel config.level, checkDir config.dir with
  | .error error, _ => (.error error, state)
  | .ok _, .error error => (.error error, state)
  | .ok level, .ok () =>
    match state.active with
    | some active => (agree active ⟨level, config.dir⟩, state)
    | none => state.start ⟨level, config.dir⟩

/-- Installs another logger, unless some logger is installed. -/
def occupy (state : State) : Bool × State :=
  if state.occupied ∨ state.active.isSome then (false, state)
  else (true, { state with occupied := true })

end State

/-! ### Crashes -/

/-- A text on one line, cut to `cap` characters and marked where it was cut. -/
def sanitize (text : String) (cap : Nat) : String :=
  let flat := text.toList.map fun c => if c = '\n' ∨ c = '\r' then ' ' else c
  String.ofList (flat.take cap ++ if cap < flat.length then ['.', '.', '.'] else [])

/-- The most characters of a crash message that are logged. -/
def maxPayloadChars : Nat := 160

/-- The event of a crash, at a place in the program and with a message where there is one. -/
def crashed (location : String) (payload : Option String) : Event :=
  .of .error "panic_captured" "core" "error"
    [("location", location),
     ("payload", sanitize (payload.getD "non-string panic payload") maxPayloadChars)]

end Logging

end MoodStore
