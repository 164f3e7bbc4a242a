import MoodStore.Event
import MoodStore.Store.Migration
import MoodStore.Store.Rows

/-!
A database file: its schema version, the tables, indexes and views that others made in it, and the
tables of the store once the migration has created them.

The migration is a transaction: its script runs statement by statement, but nothing of it stays
unless it runs through.
-/

namespace MoodStore

/-- A row of a table that does not belong to the store. -/
structure OtherRow where
  table : String
  values : List String
  deriving DecidableEq, Repr

/-- What a database file holds. The tables of the store may not exist yet, and there may be tables
and views that do not belong to it. -/
structure Database where
  version : Int
  otherTables : List String
  otherRows : List OtherRow
  otherIndexes : List String
  views : List String
  rows : Option Rows
  deriving DecidableEq, Repr

namespace Database

/-- A file that nothing was written to. -/
def blank : Database := ⟨0, [], [], [], [], none⟩

/-! ### Schema -/

def latestVersion : Nat := 1

/-- The version that a file keeps when one is written: a number of 32 bits, and 0 for any other. -/
def storedVersion (version : Int) : Int :=
  if -0x80000000 ≤ version ∧ version < 0x80000000 then version else 0

def migrationName : String := "moods_conversations_lines"

/-- All tables. -/
def tables (db : Database) : List String :=
  db.otherTables ++ if db.rows.isSome then Migration.tables ++ [Migration.counters.name] else []

/-- All indexes, but for those that the engine makes by itself. -/
def indexes (db : Database) : List String :=
  db.otherIndexes ++ if db.rows.isSome then Migration.indexes else []

/-- A table has exactly this name. -/
def hasTable (db : Database) (name : String) : Bool := db.tables.contains name

/-- All that has a name. -/
def objects (db : Database) : List Migration.Object :=
  db.tables.map (⟨.table, ·⟩) ++ db.views.map (⟨.view, ·⟩) ++ db.indexes.map (⟨.index, ·⟩)

/-! ### Migration -/

/-- The event of an applied migration, and the one that ends the run. -/
def migratedEvents : List Event :=
  [.of .info "db_migrate" "db" "ok" [("version", toString latestVersion), ("name", migrationName)],
   .of .info "db_migrate" "db" "done"
    [("from_version", "0"), ("to_version", toString latestVersion)]]

/-- Brings a database to the latest version. -/
def migrate (db : Database) : Except DbError Database × List Event :=
  if db.version < 0 then (.error (.engine (.outOfRange 0 db.version)), [])
  else if (latestVersion : Int) < db.version then
    (.error (.unsupportedVersion db.version.toNat latestVersion), [])
  else if db.version = latestVersion then (.ok db, [])
  else
    -- what a script has created that fails halfway goes with its transaction
    match Migration.run db.objects Migration.script with
    | (.error failure, _) => (.error (.engine failure), [])
    | (.ok (), _) =>
      (.ok { db with version := latestVersion, rows := some .empty }, migratedEvents)

/-! ### Statements -/

/-- The failure of a statement on tables that do not exist. -/
def missingTables : Failure := .result 1 "no such table"

/-- The tables a statement reads. -/
def read (db : Database) : Except Failure Rows :=
  match db.rows with
  | some rows => .ok rows
  | none => .error missingTables

/-- Runs a statement that writes. -/
def write {α : Type} (db : Database) (statement : Rows → Except Failure α × Rows) :
    Except Failure α × Database :=
  match db.rows with
  | some rows =>
    let (answer, rows) := statement rows
    (answer, { db with rows := some rows })
  | none => (.error missingTables, db)

end Database

end MoodStore
