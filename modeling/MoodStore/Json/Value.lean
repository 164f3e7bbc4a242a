/-!
JSON values.

A text is `none` when it escapes half of a surrogate pair, which no text contains: such a text has
correct syntax but no content. The members of an object keep their order and their repetitions.
-/

namespace MoodStore.Json

/-- The content of a string literal. -/
abbrev Text := Option String

/-- A number: a whole one by its value, any other by its spelling. A negative zero, a fraction and
an exponent make a number that is not whole. -/
inductive Number where
  | whole (value : Int)
  | other (spelling : String)
  deriving DecidableEq, Repr

inductive Value where
  | null
  | bool (value : Bool)
  | number (value : Number)
  | text (value : Text)
  | array (items : List Value)
  | object (members : List (Text × Value))
  deriving Repr

namespace Value

def string (s : String) : Value := .text (some s)

/-- An object whose keys have content. -/
def record (members : List (String × Value)) : Value :=
  .object (members.map fun (key, value) => (some key, value))

end Value

inductive Token where
  | openBracket
  | closeBracket
  | openBrace
  | closeBrace
  | comma
  | colon
  | null
  | bool (value : Bool)
  | number (value : Number)
  | text (value : Text)
  deriving DecidableEq, Repr

end MoodStore.Json
