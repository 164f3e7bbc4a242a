/-!
Failures of the database and their classification.

A failure is classified by its result code alone, never by its text: constraint failures are told
apart by the whole code, and every other failure keeps its own meaning.
-/

namespace MoodStore

/-- A failure as the database reports it, most of them an extended result code. A statement of a
script may also not compile: `left` is what was left of the script, and `offset` counts its bytes up
to the word that the engine stopped at. -/
inductive Failure where
  | result (code : Int) (message : String)
  | uncompiled (message left : String) (offset : Nat)
  | noRows
  | notReadOnly
  | unknownColumn (name : String)
  | outOfRange (column : Nat) (value : Int)
  deriving DecidableEq, Repr

namespace Failure

def message : Failure → String
  | result _ message => message
  | uncompiled message left offset => s!"{message} in {left} at offset {offset}"
  | noRows => "Query returned no rows"
  | notReadOnly => "Query is not read-only"
  | unknownColumn name => s!"Invalid column name: {name}"
  | outOfRange column value => s!"Integer {value} out of range at index {column}"

/-- The primary result code of a violated constraint. -/
def constraintCode : Int := 19

/-- The extended codes that are told apart. -/
def uniqueCode : Int := 2067
def primaryKeyCode : Int := 1555
def foreignKeyCode : Int := 787

/-- The low eight bits of the extended code say that a constraint was violated. -/
def isConstraint : Failure → Bool
  | result code _ => code % 256 == constraintCode
  | _ => false

end Failure

inductive Fault where
  | uniqueViolation (failure : Failure)
  | foreignKeyViolation (failure : Failure)
  | other (failure : Failure)
  deriving DecidableEq, Repr

namespace Fault

/-- Classifies a failure by its extended code. -/
def classify : Failure → Fault
  | failure@(.result code _) =>
    if !failure.isConstraint then other failure
    else if code = Failure.uniqueCode ∨ code = Failure.primaryKeyCode then uniqueViolation failure
    else if code = Failure.foreignKeyCode then foreignKeyViolation failure
    else other failure
  | failure => other failure

def failure : Fault → Failure
  | uniqueViolation failure | foreignKeyViolation failure | other failure => failure

def isUnique : Fault → Bool
  | uniqueViolation _ => true
  | _ => false

def isForeignKey : Fault → Bool
  | foreignKeyViolation _ => true
  | _ => false

def message : Fault → String
  | uniqueViolation failure => s!"unique constraint violated: {failure.message}"
  | foreignKeyViolation failure => s!"foreign key constraint violated: {failure.message}"
  | other failure => failure.message

/-- The texts of the errors below the fault, nearest first. -/
def sources : Fault → List String
  | uniqueViolation failure | foreignKeyViolation failure => [failure.message]
  | other failure => [failure.message, failure.message]

end Fault

/-- What can go wrong with the database as a whole: a statement failed, the pool had no connection
to give, or the file was written by a later release. -/
inductive DbError where
  | engine (failure : Failure)
  | pool (reason : String)
  | unsupportedVersion (version latest : Nat)
  deriving DecidableEq, Repr

namespace DbError

def message : DbError → String
  | engine failure => failure.message
  | pool reason => s!"connection pool: {reason}"
  | unsupportedVersion version latest =>
    s!"database schema version {version} is newer than supported {latest}"

def sources : DbError → List String
  | engine failure => [failure.message]
  | pool reason => [reason]
  | unsupportedVersion _ _ => []

end DbError

/-- Drops the classification. -/
def Fault.toDbError (fault : Fault) : DbError := .engine fault.failure

end MoodStore
