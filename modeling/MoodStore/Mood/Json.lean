import MoodStore.Json.Decode
import MoodStore.Mood

/-!
Moods as JSON records.
-/

namespace MoodStore

open Json (Value)

namespace Tier

def toJson : Tier → Value
  | dynamic => .string "dynamic"
  | static => .string "static"

def ofName? (name : String) : Option Tier :=
  if name = "dynamic" then some dynamic else if name = "static" then some static else none

/-- A tier is read from its name, or from an object whose one key is the name and holds null. -/
def ofJson? : Value → Option Tier
  | .text name => name.bind ofName?
  | .object [(name, .null)] => name.bind ofName?
  | _ => none

end Tier

namespace Mood

def fields : List String := ["name", "eyes", "tongue", "tier"]

def toJson (mood : Mood) : Value :=
  .record [("name", .string mood.name), ("eyes", .string mood.eyes),
    ("tongue", .string mood.tongue), ("tier", mood.tier.toJson)]

/-- A tier is read from its name, or from an object whose one key is the name and holds null. -/
def ofJson? (value : Value) : Option Mood := do
  match ← value.slots? fields with
  | [name, eyes, tongue, tier] =>
    return {
      name := ← Value.required? Value.asString? name
      eyes := ← Value.required? Value.asString? eyes
      tongue := ← Value.required? Value.asString? tongue
      tier := ← Value.required? Tier.ofJson? tier }
  | _ => none

end Mood

end MoodStore
