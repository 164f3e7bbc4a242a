import MoodStore.Error
import MoodStore.Store.Database

/-!
What an operation of the service acts on: the database, the log, and whatever state the source of
id draws keeps. Drawing may change all three, since other callers can act in the meantime.
-/

namespace MoodStore

/-- The state that operations share: the database, the events so far, oldest first, and the state
`ρ` of the draw source. -/
structure World (ρ : Type) where
  database : Database
  log : List Event
  source : ρ

/-- An operation that can be refused. What it did before it was refused stays done. -/
abbrev Operation (ρ α : Type) : Type := ExceptT Error (StateM (World ρ)) α

namespace World

variable {ρ α : Type}

def emit (event : Event) : StateM (World ρ) Unit :=
  modify fun world => { world with log := world.log ++ [event] }

/-- Runs a statement that writes. -/
def execute (statement : Rows → Except Failure α × Rows) :
    StateM (World ρ) (Except Failure α) := fun world =>
  let (answer, database) := world.database.write statement
  (answer, { world with database })

end World

namespace Operation

variable {ρ α : Type}

/-- Reads from the database. -/
def reading (query : Database → Except Error α) : Operation ρ α := fun world =>
  (query world.database, world)

/-- Runs an action that cannot be refused. -/
def lift (action : StateM (World ρ) α) : Operation ρ α := fun world =>
  let (answer, world) := action world
  (.ok answer, world)

/-- Runs a statement that writes; its failure is the outcome. -/
def executing (statement : Rows → Except Failure α × Rows) : Operation ρ α := do
  match ← lift (World.execute statement) with
  | .ok answer => return answer
  | .error failure => throw (.ofFailure failure)

end Operation

def Database.rowsOrError (db : Database) : Except Error Rows := db.read.mapError .ofFailure

end MoodStore
