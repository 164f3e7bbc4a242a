import MoodStore.Fault
import MoodStore.Listing.Cursor

/-!
The closed set of outcomes other than success.

Five of them tell the caller what to change; the sixth is a fault of the store itself, which is
reported generically.
-/

namespace MoodStore

open Listing (Cursor)

/-- Faults of the store itself: the database failed, every drawn id was taken, or a stored row has
no meaning. -/
inductive InternalFault where
  | db (error : DbError)
  | idSpaceExhausted (tag : String) (attempts : Nat)
  | invalidData (detail : String)
  deriving DecidableEq, Repr

namespace InternalFault

def message : InternalFault → String
  | db error => error.message
  | idSpaceExhausted tag attempts =>
    s!"unable to generate a unique `{tag}` identifier after {attempts} attempts"
  | invalidData detail => s!"invalid persisted data: {detail}"

/-- The texts of the errors below the fault, nearest first. -/
def sources : InternalFault → List String
  | db error => error.message :: error.sources
  | _ => []

end InternalFault

/-- Why an operation was not carried out. A cursor may name no live entry; a change may be one of a
built-in entry, a deletion one of an entity that live rows refer to; the target may be missing, or a
parameter not hold what it must. -/
inductive Error where
  | cursorNotFound (cursor : Cursor)
  | protectedEntity (name : String)
  | hasDependents (entity dependents : String) (count : Nat)
  | notFound
  | validation (param detail : String)
  | internal (fault : InternalFault)
  deriving DecidableEq, Repr

namespace Error

def code : Error → String
  | cursorNotFound _ => "cursor_not_found"
  | protectedEntity _ => "action_not_allowed"
  | hasDependents _ _ _ => "has_dependents"
  | notFound => "not_found"
  | validation _ _ => "invalid_params"
  | internal _ => "internal_failure"

def isInternal : Error → Bool
  | internal _ => true
  | _ => false

def message : Error → String
  | cursorNotFound cursor => s!"{cursor.param} must refer to an existing object"
  | protectedEntity name => s!"you may not modify built-in `{name}`"
  | hasDependents entity dependents count =>
    s!"cannot delete `{entity}`: referenced by {count} {dependents}"
  | notFound => "the requested resource could not be found"
  | validation param detail => s!"{param}: {detail}"
  | internal fault => fault.message

def sources : Error → List String
  | internal fault => fault.message :: fault.sources
  | _ => []

/-- The outcome of a database error. -/
def ofDbError (error : DbError) : Error := internal (.db error)

/-- The outcome of a failed statement. -/
def ofFailure (failure : Failure) : Error := ofDbError (.engine failure)

end Error

/-- The outcome of a classified failure that nothing has handled. -/
def Fault.toError (fault : Fault) : Error := .ofDbError fault.toDbError

end MoodStore
