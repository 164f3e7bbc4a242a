import MoodStore.Listing.Cursor
import MoodStore.Text.Fold

/-!
Catalogs: the built-in entries of a listed resource, in declaration order.

An entry is found by its folded id; of several entries with the same folded id the first is found.
-/

namespace MoodStore

open Listing (Direction)

/-- The two parts of a listed resource: owned rows and built-in entries. -/
inductive Tier where
  | dynamic
  | static
  deriving DecidableEq, Repr

class Entry (α : Type) where
  id : α → String

instance : Entry String := ⟨fun name => name⟩

/-- The built-in entries, in declaration order. -/
structure Catalog (α : Type) where
  entries : List α
  deriving DecidableEq, Repr

namespace Catalog

variable {α : Type} [Entry α]

/-- The catalog of a resource that has no built-in entries. -/
def empty : Catalog α := ⟨[]⟩

/-- The declaration index of the first entry with this folded id. -/
def position? (catalog : Catalog α) (id : String) : Option Nat :=
  let key := foldCase id
  catalog.entries.findIdx? fun entry => foldCase (Entry.id entry) == key

/-- The first entry with this folded id. -/
def get? (catalog : Catalog α) (id : String) : Option α :=
  (catalog.position? id).bind fun index => catalog.entries[index]?

/-- Some entry has this folded id. -/
def contains (catalog : Catalog α) (id : String) : Bool := (catalog.position? id).isSome

/-- Up to `count` entries strictly beyond the index `from?` in the direction; from the edge of the
catalog where no index is given. -/
def slice (catalog : Catalog α) (from? : Option Nat) (direction : Direction) (count : Nat) :
    List α :=
  match direction with
  | .ascending => (catalog.entries.drop (from?.elim 0 (· + 1))).take count
  | .descending => (catalog.entries.take (from?.getD catalog.entries.length)).reverse.take count

end Catalog

end MoodStore
