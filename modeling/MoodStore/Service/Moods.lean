import MoodStore.Guard
import MoodStore.Listing.Tiered
import MoodStore.Service.World

/-!
Operations on the moods of one owner, beside a catalog of built-in moods.

A name means one of three things: the built-in mood with its key, else the owner's mood with its
key, else nothing. Names of built-in moods are reserved, whatever rows exist.
-/

namespace MoodStore.Moods

open Listing (Direction DynamicTier Page Query)

/-- What a mood name means. -/
inductive Meaning where
  | builtin (mood : Mood)
  | owned (row : MoodRow)
  | absent
  deriving DecidableEq, Repr

def Meaning.mood? : Meaning → Option Mood
  | builtin mood => some mood
  | owned row => some row.toMood
  | absent => none

def Meaning.row? : Meaning → Option MoodRow
  | owned row => some row
  | _ => none

/-- The rows strictly beyond a row id in a direction, or all of them, nearest first. -/
def beyond {α : Type} (id : α → Nat) (from? : Option Nat) (direction : Direction)
    (rows : List α) : List α :=
  match direction with
  | .ascending => rows.filter fun row => from?.all fun edge => edge < id row
  | .descending => (rows.filter fun row => from?.all fun edge => id row < edge).reverse

/-- An owner's moods as the dynamic tier of a listing. -/
def tier (db : Database) (owner : String) : DynamicTier (Except Error) Nat Mood where
  resolve name := do
    let rows ← db.rowsOrError
    return (rows.findMood? owner (foldCase name)).map MoodRow.id
  queryFrom from? direction count := do
    let rows ← db.rowsOrError
    return ((beyond MoodRow.id from? direction (rows.moodsOf owner)).take count).map
      MoodRow.toMood

/-- One page of the owner's moods and the built-in ones. -/
def list (builtins : Catalog Mood) (owner : String) (query : Query) (db : Database) :
    Except Error (Page Mood) :=
  Listing.list builtins (tier db owner) query

/-- The meaning of a name. -/
def meaning (builtins : Catalog Mood) (owner name : String) (db : Database) :
    Except Error Meaning :=
  match builtins.get? name with
  | some mood => .ok (.builtin mood)
  | none => do
    let rows ← db.rowsOrError
    return match rows.findMood? owner (foldCase name) with
      | some row => .owned row
      | none => .absent

def get (builtins : Catalog Mood) (owner name : String) (db : Database) : Except Error Mood := do
  match (← meaning builtins owner name db).mood? with
  | some mood => return mood
  | none => throw .notFound

variable {ρ : Type}

/-- Refuses the name of a built-in mood. -/
def unreserved (builtins : Catalog Mood) (name : String) : Operation ρ Unit :=
  if builtins.contains name then throw (.protectedEntity name) else return

/-- Creates or updates a mood of the owner. The table answers what the write did by its stored
name, which is read back. -/
def set (builtins : Catalog Mood) (owner name eyes tongue : String) : Operation ρ MoodWrite := do
  unreserved builtins name
  let (mood, stored) ← Operation.executing fun rows =>
    let (written, rows) := rows.writeMood owner name eyes tongue
    (.ok (written.mood, written.outcome.stored), rows)
  match WriteOutcome.ofStored? stored with
  | some outcome => return ⟨mood, outcome⟩
  | none => throw (.internal (.invalidData s!"unknown moods.write_outcome `{stored}`"))

/-- Deletes a mood of the owner, unless lines refer to it. -/
def delete (builtins : Catalog Mood) (owner name : String) : Operation ρ Unit := do
  unreserved builtins name
  let key := foldCase name
  Guard.deleteOrReport name "lines"
    (World.execute fun rows => rows.deleteMood owner key)
    (Operation.reading fun db => do return (← db.rowsOrError).countLinesUsing owner key)
    World.emit

end MoodStore.Moods
