/-!
Log events: a level and a list of named fields, written on one line as `name=value` pairs.
-/

namespace MoodStore

/-- Log levels, the least urgent first. -/
inductive Level where
  | trace
  | debug
  | info
  | warn
  | error
  deriving DecidableEq, Repr

namespace Level

/-- The name a setting uses. -/
def name : Level → String
  | trace => "trace"
  | debug => "debug"
  | info => "info"
  | warn => "warn"
  | error => "error"

def label : Level → String
  | trace => "TRACE"
  | debug => "DEBUG"
  | info => "INFO"
  | warn => "WARN"
  | error => "ERROR"

/-- The place of the level, from the least urgent on. -/
def rank : Level → Nat
  | trace => 0
  | debug => 1
  | info => 2
  | warn => 3
  | error => 4

/-- Events of the level `l` are written when the active level is `active`. -/
def passes (active l : Level) : Bool := active.rank ≤ l.rank

end Level

structure Event where
  level : Level
  fields : List (String × String)
  deriving DecidableEq, Repr

namespace Event

def text (e : Event) : String :=
  " ".intercalate (e.fields.map fun (name, value) => name ++ "=" ++ value)

def line (e : Event) : String := e.level.label ++ " " ++ e.text

/-- An event with the three fields that every event carries, and more. -/
def of (level : Level) (event area status : String) (more : List (String × String)) : Event :=
  ⟨level, ("event", event) :: ("module", area) :: ("status", status) :: more⟩

end Event

end MoodStore
