import MoodStore.Error
import MoodStore.Event
import MoodStore.Numeral.Base36

/-!
Public ids, and inserting a row under one that is free.

An id is a tag followed by a drawn number in base 36. An insert is tried with fresh ids as long as
the id is taken, a bounded number of times.
-/

namespace MoodStore

/-- The id of a draw. -/
def publicId (tag : String) (draw : UInt64) : String :=
  tag ++ String.ofList (Base36.encode draw.toNat)

/-- Why no row was inserted: every id was taken, or the insert failed for another reason. -/
inductive InsertError where
  | exhausted (tag : String) (attempts : Nat)
  | fault (cause : Fault)
  deriving DecidableEq, Repr

namespace InsertError

def message : InsertError → String
  | exhausted tag attempts => s!"no unique `{tag}` identifier after {attempts} attempts"
  | fault cause => cause.message

def sources : InsertError → List String
  | exhausted _ _ => []
  | fault cause => cause.message :: cause.sources

def toError : InsertError → Error
  | exhausted tag attempts => .internal (.idSpaceExhausted tag attempts)
  | fault cause => cause.toError

end InsertError

namespace Ids

/-- How a source of ids shows itself: without the numbers it will draw. -/
def description : String := "IdGenerator \x7b .. \x7d"

/-- How many inserts are tried. -/
def maxAttempts : Nat := 16

/-- The event of an attempt whose id was taken. -/
def collision (tag : String) (attempt : Nat) : Event :=
  .of .warn "id_collision" "repo" "retry" [("prefix", tag), ("attempt", toString attempt)]

def exhaustion (tag : String) (attempts : Nat) : Event :=
  .of .error "id_collision" "repo" "error"
    [("error_code", "id_space_exhausted"), ("prefix", tag), ("attempts", toString attempts)]

variable {σ α : Type}

/-- Attempts number `attempt`, `attempt + 1`, … while `left` of them are left. -/
def insertFrom (tag : String) (draw : StateM σ UInt64)
    (insert : String → StateM σ (Except Failure α)) (emit : Event → StateM σ Unit)
    (attempt : Nat) : Nat → StateM σ (Except InsertError α)
  | 0 => do
    emit (exhaustion tag maxAttempts)
    return .error (.exhausted tag maxAttempts)
  | left + 1 => do
    let value ← draw
    match ← insert (publicId tag value) with
    | .ok row => return .ok row
    | .error failure =>
      if (Fault.classify failure).isUnique then
        emit (collision tag attempt)
        insertFrom tag draw insert emit (attempt + 1) left
      else return .error (.fault (.classify failure))

/-- Inserts under freshly drawn ids until the id is free, another failure occurs, or the attempts
run out. -/
def insertUnique (tag : String) (draw : StateM σ UInt64)
    (insert : String → StateM σ (Except Failure α)) (emit : Event → StateM σ Unit) :
    StateM σ (Except InsertError α) :=
  insertFrom tag draw insert emit 1 maxAttempts

end Ids

end MoodStore
