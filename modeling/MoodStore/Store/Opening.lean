import MoodStore.Store.Database
import MoodStore.StoreConfig

/-!
Opening a store: building its pool of connections, then bringing the database up to date.

The pool accepts only a positive connection timeout and no more idle connections than it may hold;
other sizes crash the opening before the file is touched. A connection that cannot be made leaves
its caller waiting until the connection timeout.
-/

namespace MoodStore

/-- What lies at the path of a store. Where there is nothing, a connection creates an empty
database; a directory is `unusable`, and so are a file that is no database and a path below a
missing directory. -/
inductive Site where
  | absent
  | database (db : Database)
  | unusable

/-- A file of so many bytes that no store has written to. One of at most a single byte counts as
empty. -/
def Site.ofForeignFile (bytes : Nat) : Site := if bytes ≤ 1 then .database .blank else .unusable

/-- How an opening ends. -/
inductive Opened where
  | store (db : Database)
  | failed (error : DbError)
  | crashed (message : String)

namespace Opening

/-- Where the store lives, for the events. -/
inductive Mode where
  | file
  | memory

def Mode.name : Mode → String
  | file => "file"
  | memory => "memory"

def startEvent (mode : Mode) (poolSize : Nat) : Event :=
  .of .info "store_open" "db" "start"
    [("mode", mode.name), ("max_connections", toString poolSize)]

def okEvent (mode : Mode) (elapsedMs : Nat) : Event :=
  .of .info "store_open" "db" "ok" [("mode", mode.name), ("duration_ms", toString elapsedMs)]

def errorEvent (mode : Mode) (elapsedMs : Nat) (code message : String) : Event :=
  .of .error "store_open" "db" "error"
    [("mode", mode.name), ("duration_ms", toString elapsedMs), ("error_code", code),
     ("error", message)]

/-- Why the pool cannot be built at all. The timeout is looked at before the sizes. -/
def crash? (config : StoreConfig) : Option String :=
  if config.connectionTimeoutMs = 0 then some "connection_timeout must be positive"
  else
    match config.minIdle with
    | some idle =>
      if config.poolSize < idle then some "min_idle must be no larger than max_size" else none
    | none => none

/-- The longest lock timeout a connection takes, in milliseconds. -/
def maxBusyTimeoutMs : Nat := 0x7fffffff

/-- What the first connection does to the site. -/
def touch : Site → Site
  | .absent => .database .blank
  | site => site

/-- The database that connections reach. -/
def reach? (config : StoreConfig) (site : Site) : Option Database :=
  if maxBusyTimeoutMs < config.busyTimeoutMs then none
  else
    match touch site with
    | .database db => some db
    | _ => none

/-- The error of a caller that waits in vain for a connection. -/
def timedOut : DbError := .pool "timed out waiting for connection"

/-- Ends an opening whose pool has been built. -/
def finish (mode : Mode) (elapsedMs : Nat) (db : Database) : Opened × Database × List Event :=
  match db.migrate with
  | (.ok migrated, events) => (.store migrated, migrated, events ++ [okEvent mode elapsedMs])
  | (.error error, events) =>
    (.failed error, db,
      events ++ [errorEvent mode elapsedMs "db_bootstrap_failed" error.message])

/-- Opens the file store at a site. Answers how that ended, what lies there afterwards, and the
events. -/
def openFile (config : StoreConfig) (site : Site) (elapsedMs : Nat) :
    Opened × Site × List Event :=
  let first := startEvent .file config.poolSize
  match crash? config with
  | some message => (.crashed message, site, [first])
  | none =>
    match reach? config site with
    | none =>
      let code := if config.minIdle = some 0 then "db_bootstrap_failed" else "pool_build_failed"
      (.failed timedOut, touch site,
        [first, errorEvent .file elapsedMs code timedOut.message])
    | some db =>
      let (opened, left, events) := finish .file elapsedMs db
      (opened, .database left, first :: events)

/-- Opens a store in memory, which holds one connection and starts empty. -/
def openMemory (elapsedMs : Nat) : Opened × List Event :=
  let (opened, _, events) := finish .memory elapsedMs .blank
  (opened, startEvent .memory 1 :: events)

end Opening

/-- The database of a store that was just created. -/
def Database.fresh : Database := { Database.blank with
  version := Database.latestVersion
  rows := some .empty }

end MoodStore
