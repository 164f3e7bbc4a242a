import MoodStore.Catalog
import MoodStore.Listing.Tiered

/-!
Walks: pages asked for one after the other, each beyond the last item of the one before.

A walk ends at a page that has nothing beyond it or no item to go on from, at a refusal, or after
a given number of pages.
-/

namespace MoodStore.Listing

/-- The direction of a walk, its page size, and the entry that it starts strictly beyond; without
one it starts at the beginning. -/
structure Walk where
  limit : Nat
  from? : Option String
  backward : Bool
  deriving DecidableEq, Repr

namespace Walk

/-- The request for the page beyond an entry. -/
def beyond (walk : Walk) (id : String) : Query :=
  if walk.backward then .before id walk.limit else .after id walk.limit

def first (walk : Walk) : Query :=
  match walk.from? with
  | some id => walk.beyond id
  | none => .first walk.limit

end Walk

variable {σ α : Type} [Entry α]

/-- The pages of a walk from a request on, at most `most` of them, and the refusal it ended at. -/
def follow (ask : Query → StateM σ (Except Error (Page α))) (next : String → Query) :
    (most : Nat) → Query → StateM σ (List (Page α) × Option Error)
  | 0, _ => return ([], none)
  | most + 1, query => do
    match ← ask query with
    | .error error => return ([], some error)
    | .ok page =>
      match page.hasMore, page.lastCursor with
      | true, some id =>
        let (pages, refusal) ← follow ask next most (next id)
        return (page :: pages, refusal)
      | _, _ => return ([page], none)

/-- The pages of a walk, at most `most` of them, and the refusal it ended at. -/
def Walk.run (walk : Walk) (ask : Query → StateM σ (Except Error (Page α))) (most : Nat) :
    StateM σ (List (Page α) × Option Error) :=
  follow ask walk.beyond most walk.first

end MoodStore.Listing
