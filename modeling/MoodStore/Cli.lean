import MoodStore.Listing.Walk
import MoodStore.Logging.State
import MoodStore.Service.Calls
import MoodStore.Store.Opening
import MoodStore.Text.Quoted

/-!
The command line: opens a store and prints the moods of one owner.

The first argument is the path of the store, without which one in memory is used; the second is
the owner. A log directory can be given in the environment; if logging cannot be started there, the
program says so and goes on. While logging is active, warnings and errors also go to the standard
error stream.
-/

namespace MoodStore.Cli

open Listing (Page Query Walk)

/-- How the program ended, what it printed, and the events for the log files, of which there are
none unless logging was started. -/
structure Report where
  exit : Nat
  stdout : String
  stderr : String
  logged : List Event
  deriving DecidableEq, Repr

def logDirVariable : String := "SAYPI_LOG_DIR"

def defaultOwner : String := "smoke"

/-- The lines before the listing. -/
def banner : List String :=
  [s!"saypi_core ping={Release.ping}", s!"saypi_core version={Release.version}"]

def tierLabel : Tier → String
  | .dynamic => "Dynamic"
  | .static => "Static"

def moodLine (mood : Mood) : String :=
  "mood name=" ++ mood.name ++ " eyes=" ++ quoted mood.eyes ++ " tongue=" ++ quoted mood.tongue ++
    " tier=" ++ tierLabel mood.tier

/-- The walk over a whole listing, with the largest pages that requests may ask for. -/
def wholeListing : Walk := ⟨Query.maxLimit, none, false⟩

/-- A bound on the number of pages: every page but the last has an entry of its own. -/
def maxPages (db : Database) : Nat :=
  (db.rows.elim 0 fun rows => rows.moods.length) + builtinMoods.entries.length + 1

/-- The lines of the listing, the refusal it ended at, and the events. -/
def listing (owner : String) (db : Database) : List String × Option String × List Event :=
  let service : Service Unit := ⟨builtinMoods, pure 0⟩
  let ((pages, refusal), world) :=
    (wholeListing.run (fun query => (service.listMoods owner query).run) (maxPages db)).run
      ⟨db, [], ()⟩
  (pages.flatMap fun page => page.items.map moodLine,
    refusal.map fun error => s!"{error.message} ({error.code})", world.log)

/-- Opens the store that the arguments name. -/
def openStore (path : Option String) (site : Site) : Opened × List Event :=
  match path with
  | some path =>
    let (opened, _, events) := Opening.openFile (.ofPath path) site 0
    (opened, events)
  | none => Opening.openMemory 0

/-- The settings of the log files in a directory. -/
def loggingConfig (dir : String) (profile : Logging.Profile := .debug) : Logging.Config :=
  { Logging.Config.ofDir dir profile with duplicateToStderr := true }

/-- The logging state that the program runs with, and why logging was not started if a directory
is given and it was not. -/
def startLogging (logDir : Option String) (tree : FileTree) (profile : Logging.Profile := .debug) :
    Logging.State × List String :=
  match logDir with
  | none => (.initial tree, [])
  | some dir =>
    match (Logging.State.initial tree).init (loggingConfig dir profile) with
    | (.ok (), state) => (state, [])
    | (.error error, state) => (state, [s!"saypi_cli logging disabled: {error.message}"])

/-- The lines of the warnings and errors among the events. -/
def urgentLines (events : List Event) : List String :=
  (events.filter fun event => Level.warn.passes event.level).map Event.line

def unlines (lines : List String) : String := String.join (lines.map (· ++ "\n"))

/-- Runs the program, given its arguments, the log directory, the files around it, and what lies
at the path of the store. -/
def run (arguments : List String) (logDir : Option String) (tree : FileTree) (site : Site)
    (profile : Logging.Profile := .debug) : Report :=
  let (state, notices) := startLogging logDir tree profile
  let (opened, openingEvents) := openStore arguments.head? site
  let (lines, refusal, listingEvents) :=
    match opened with
    | .failed error => ([], some error.message, [])
    | .crashed message => ([], some message, [])
    | .store db => listing ((arguments[1]?).getD defaultOwner) db
  let logged := ((openingEvents ++ listingEvents).foldl Logging.State.emit state).written
  let failure := refusal.toList.map ("saypi_cli error: " ++ ·)
  { exit := if refusal.isSome then 1 else 0
    stdout := unlines (banner ++ lines)
    stderr := unlines (notices ++ urgentLines logged ++ failure)
    logged }

end MoodStore.Cli
