import MoodStore.Error

/-!
Listing requests, and how request parameters become one.
-/

namespace MoodStore.Listing

structure Query where
  cursor : Option Cursor
  limit : Nat
  deriving DecidableEq, Repr

namespace Query

/-- The page size of a request that names none. -/
def defaultLimit : Nat := 10

/-- The largest page size a request may name. -/
def maxLimit : Nat := 100

def first (limit : Nat) : Query := ⟨none, limit⟩
def after (id : String) (limit : Nat) : Query := ⟨some (.after id), limit⟩
def before (id : String) (limit : Nat) : Query := ⟨some (.before id), limit⟩

/-- Without a cursor a listing runs forward. -/
def direction (query : Query) : Direction := query.cursor.elim .ascending Cursor.direction

/-- A parameter that is present and not empty. -/
def given (param : Option String) : Option String := param.filter (· ≠ "")

/-- The query of request parameters. Empty cursors count as missing; two cursors are refused
before the limit is looked at. -/
def ofParams (after before : Option String) (limit : Option Nat) : Except Error Query := do
  let cursor ← match given after, given before with
    | some _, some _ =>
      throw (.validation "starting_after" "you may not provide multiple cursor parameters")
    | some id, none => pure (some (Cursor.after id))
    | none, some id => pure (some (Cursor.before id))
    | none, none => pure none
  let limit := limit.getD defaultLimit
  if maxLimit < limit then
    throw (.validation "limit" s!"must be a non-negative integer no greater than {maxLimit}")
  return ⟨cursor, limit⟩

end Query

/-- One page of a listing, and whether entries lie beyond its last item. -/
structure Page (α : Type) where
  items : List α
  hasMore : Bool
  deriving DecidableEq, Repr

end MoodStore.Listing
