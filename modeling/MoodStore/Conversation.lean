import MoodStore.Mood

/-!
Conversations and their lines, as callers see them.
-/

namespace MoodStore

structure Line where
  id : String
  animal : String
  think : Bool
  text : String
  mood : Mood
  deriving DecidableEq, Repr

/-- A conversation. Listings leave `lines` empty; only reading a single one fills it. -/
structure Conversation where
  id : String
  heading : String
  lines : List Line
  deriving DecidableEq, Repr

instance : Entry Conversation := ⟨Conversation.id⟩

/-- What a caller gives to create a line; its mood is the name of a built-in mood or of an owned
one. -/
structure NewLine where
  animal : String
  think : Bool
  mood : String
  text : String
  deriving DecidableEq, Repr

def conversationTag : String := "cv_"

def lineTag : String := "ln_"

end MoodStore
