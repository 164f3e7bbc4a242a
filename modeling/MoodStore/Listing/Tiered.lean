import MoodStore.Catalog
import MoodStore.Listing.Query

/-!
Pages over two tiers: owned rows, which lie in some other store, and the entries of a catalog.

Forward a listing runs through the rows and then through the catalog, backward the other way
round. The engine asks each tier it visits for one entry more than the page still holds; that
entry tells whether more lie beyond the page, and a tier that has it ends the walk.
-/

namespace MoodStore.Listing

/-- A place inside one tier; places among the rows are of type `π`. -/
inductive Position (π : Type) where
  | dynamic (place : π)
  | static (index : Nat)
  deriving DecidableEq, Repr

def Position.tier {π : Type} : Position π → Tier
  | .dynamic _ => .dynamic
  | .static _ => .static

/-- Where a visit to one tier begins: at its edge, or strictly beyond a position. -/
inductive Start (π : Type) where
  | boundary (tier : Tier)
  | beyond (position : Position π)
  deriving DecidableEq, Repr

/-- The owned rows, seen through two questions: the place of the live row with an id, and up to a
count of rows that lie strictly beyond a place in a direction, or come first from the edge. -/
structure DynamicTier (m : Type → Type) (π α : Type) where
  resolve : String → m (Option π)
  queryFrom : Option π → Direction → Nat → m (List α)

/-- The tiers in the order a direction visits them. -/
def Direction.tiers : Direction → List Tier
  | .ascending => [.dynamic, .static]
  | .descending => [.static, .dynamic]

/-- The visits of a walk that begins at the edge. -/
def edgeStarts {π : Type} (direction : Direction) : List (Start π) :=
  direction.tiers.map .boundary

/-- The visits of a walk that begins at a position: the rest of its tier, then the tiers that the
direction visits later. -/
def beyondStarts {π : Type} (direction : Direction) (position : Position π) : List (Start π) :=
  .beyond position ::
    ((direction.tiers.dropWhile (· ≠ position.tier)).drop 1).map .boundary

variable {m : Type → Type} [Monad m] [MonadExceptOf Error m] {π α : Type} [Entry α]

/-- The position of a cursor. The catalog is asked first, so that a reserved name always means the
built-in entry. -/
def resolveCursor (catalog : Catalog α) (rows : DynamicTier m π α) (cursor : Cursor) :
    m (Position π) :=
  match catalog.position? cursor.id with
  | some index => pure (.static index)
  | none => do
    match ← rows.resolve cursor.id with
    | some place => pure (.dynamic place)
    | none => throw (.cursorNotFound cursor)

def queryTier (catalog : Catalog α) (rows : DynamicTier m π α) (direction : Direction)
    (count : Nat) : Start π → m (List α)
  | .boundary .static => pure (catalog.slice none direction count)
  | .beyond (.static index) => pure (catalog.slice (some index) direction count)
  | .boundary .dynamic => rows.queryFrom none direction count
  | .beyond (.dynamic place) => rows.queryFrom (some place) direction count

/-- Fills a page that holds `items` from the visits that are left. -/
def fill (catalog : Catalog α) (rows : DynamicTier m π α) (direction : Direction) (limit : Nat)
    (items : List α) : List (Start π) → m (Page α)
  | [] => pure ⟨items, false⟩
  | start :: starts => do
    let room := limit - items.length
    let fetched ← queryTier catalog rows direction (room + 1) start
    if room < fetched.length then pure ⟨items ++ fetched.take room, true⟩
    else fill catalog rows direction limit (items ++ fetched) starts

/-- One page across both tiers. -/
def list (catalog : Catalog α) (rows : DynamicTier m π α) (query : Query) : m (Page α) := do
  let starts ← match query.cursor with
    | some cursor => do
      let position ← resolveCursor catalog rows cursor
      pure (beyondStarts query.direction position)
    | none => pure (edgeStarts query.direction)
  fill catalog rows query.direction query.limit [] starts

/-- The id of the last item, with which the next page can be asked for. -/
def Page.lastCursor (page : Page α) : Option String := page.items.getLast?.map Entry.id

end MoodStore.Listing
