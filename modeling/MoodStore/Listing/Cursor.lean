/-!
Directions of a listing, and the cursors that imply them.
-/

namespace MoodStore.Listing

inductive Direction where
  | ascending
  | descending
  deriving DecidableEq, Repr

/-- A boundary that a page starts strictly beyond, named by the id of an entry. -/
inductive Cursor where
  | after (id : String)
  | before (id : String)
  deriving DecidableEq, Repr

namespace Cursor

def id : Cursor → String
  | after id | before id => id

/-- A page after an entry runs forward, one before it runs backward. -/
def direction : Cursor → Direction
  | after _ => .ascending
  | before _ => .descending

/-- The request parameter that carries the cursor. -/
def param : Cursor → String
  | after _ => "starting_after"
  | before _ => "ending_before"

end Cursor

end MoodStore.Listing
