import MoodStore.Json.Parse
import MoodStore.Json.Render

/-!
Types with a JSON text for each of their values.
-/

namespace MoodStore.Json

/-- How values of a type are written as JSON values and read from them. -/
structure Codec (α : Type) where
  toJson : α → Value
  ofJson? : Value → Option α

namespace Codec

variable {α β : Type}

def encode (codec : Codec α) (x : α) : String := (codec.toJson x).render

/-- The value of the type that a text stands for. -/
def decode? (codec : Codec α) (text : String) : Option α := (parse? text).bind codec.ofJson?

/-- The codec of a type of which only a part is written. -/
def through (codec : Codec β) (shown : α → β) (held : β → α) : Codec α where
  toJson x := codec.toJson (shown x)
  ofJson? value := (codec.ofJson? value).map held

end Codec

end MoodStore.Json
