import MoodStore.Catalog

/-!
Moods: the presets a line is shown with.
-/

namespace MoodStore

/-- A mood, built in or owned by a user. Its name, as it was chosen, is its id. -/
structure Mood where
  name : String
  eyes : String
  tongue : String
  tier : Tier
  deriving DecidableEq, Repr

namespace Mood

instance : Entry Mood := ⟨name⟩

def builtin (name eyes tongue : String) : Mood := ⟨name, eyes, tongue, .static⟩

def owned (name eyes tongue : String) : Mood := ⟨name, eyes, tongue, .dynamic⟩

def userDefined (mood : Mood) : Bool := mood.tier == .dynamic

end Mood

def builtinMoods : Catalog Mood :=
  ⟨[.builtin "borg" "==" "  ", .builtin "dead" "xx" "U ", .builtin "greedy" "$$" "  ",
    .builtin "stoned" "**" "U ", .builtin "tired" "--" "  ", .builtin "wired" "OO" "  ",
    .builtin "young" ".." "  "]⟩

inductive WriteOutcome where
  | created
  | updated
  | unchanged
  deriving DecidableEq, Repr

namespace WriteOutcome

/-- The name under which the outcome is stored. -/
def stored : WriteOutcome → String
  | created => "created"
  | updated => "updated"
  | unchanged => "unchanged"

/-- Reads a stored name; no other spelling is one. -/
def ofStored? (text : String) : Option WriteOutcome :=
  if text = "created" then some created
  else if text = "updated" then some updated
  else if text = "unchanged" then some unchanged
  else none

/-- The name of the outcome in log events. -/
def label : WriteOutcome → String
  | created => "Created"
  | updated => "Updated"
  | unchanged => "Unchanged"

@[simp] theorem ofStored?_stored (outcome : WriteOutcome) :
    ofStored? outcome.stored = some outcome := by
  cases outcome <;> rfl

end WriteOutcome

structure MoodWrite where
  mood : Mood
  outcome : WriteOutcome
  deriving DecidableEq, Repr

end MoodStore
