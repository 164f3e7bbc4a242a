import MoodStore.Json.Value

/-!
Reading typed data from JSON values.

A record is read from an object, whose unknown members are passed over and whose known keys must
not repeat, or from an array that lists the fields in order. Either way there is one slot for each
field, empty where the field is missing.
-/

namespace MoodStore.Json.Value

def asString? : Value → Option String
  | .text value => value
  | _ => none

def asBool? : Value → Option Bool
  | .bool value => some value
  | _ => none

/-- A whole number from 0 to below `bound`. -/
def asNat? (bound : Nat) : Value → Option Nat
  | .number (.whole (.ofNat n)) => if n < bound then some n else none
  | _ => none

/-- A null stands for nothing; any other value must be read. -/
def asNullable? {α : Type} (read : Value → Option α) : Value → Option (Option α)
  | .null => some none
  | value => (read value).map some

def asArray? : Value → Option (List Value)
  | .array items => some items
  | _ => none

/-- The value of the first member with this key. -/
def member? (members : List (Text × Value)) (key : String) : Option Value :=
  (members.find? fun m => m.1 == some key).map (·.2)

/-- Every key is a text, and none of the known keys repeats. -/
def keysFit (fields : List String) (members : List (Text × Value)) : Bool :=
  members.all (fun m => m.1.isSome) &&
    fields.all fun field => (members.filter fun m => m.1 == some field).length ≤ 1

/-- The slots of a record with these fields. -/
def slots? (fields : List String) : Value → Option (List (Option Value))
  | .object members =>
    if keysFit fields members then some (fields.map (member? members)) else none
  | .array items =>
    if items.length ≤ fields.length then
      some (items.map some ++ List.replicate (fields.length - items.length) none)
    else none
  | _ => none

/-- Reads a slot that must be filled. -/
def required? {α : Type} (read : Value → Option α) (slot : Option Value) : Option α :=
  slot.bind read

/-- Reads a slot, an empty one as the default. -/
def optional? {α : Type} (read : Value → Option α) (default : α) (slot : Option Value) : Option α :=
  slot.elim (some default) read

end MoodStore.Json.Value
