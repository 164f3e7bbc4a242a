import MoodStore.Conversation
import MoodStore.Mood.Json

/-!
Conversations and lines as JSON records. A conversation without lines is written without the
field, and a missing field is read as no lines.
-/

namespace MoodStore

open Json (Value)

namespace Line

def fields : List String := ["id", "animal", "think", "text", "mood"]

def toJson (line : Line) : Value :=
  .record [("id", .string line.id), ("animal", .string line.animal), ("think", .bool line.think),
    ("text", .string line.text), ("mood", line.mood.toJson)]

def ofJson? (value : Value) : Option Line := do
  match ← value.slots? fields with
  | [id, animal, think, text, mood] =>
    return {
      id := ← Value.required? Value.asString? id
      animal := ← Value.required? Value.asString? animal
      think := ← Value.required? Value.asBool? think
      text := ← Value.required? Value.asString? text
      mood := ← Value.required? Mood.ofJson? mood }
  | _ => none

/-- Reads an array of lines. -/
def listOfJson? (value : Value) : Option (List Line) := do
  (← value.asArray?).mapM ofJson?

end Line

namespace Conversation

def fields : List String := ["id", "heading", "lines"]

def toJson (conversation : Conversation) : Value :=
  .record ([("id", .string conversation.id), ("heading", .string conversation.heading)] ++
    if conversation.lines = [] then []
    else [("lines", .array (conversation.lines.map Line.toJson))])

def ofJson? (value : Value) : Option Conversation := do
  match ← value.slots? fields with
  | [id, heading, lines] =>
    return {
      id := ← Value.required? Value.asString? id
      heading := ← Value.required? Value.asString? heading
      lines := ← Value.optional? Line.listOfJson? [] lines }
  | _ => none

end Conversation

end MoodStore
