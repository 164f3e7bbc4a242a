import MoodStore.Conversation.Json
import MoodStore.Json.Codec
import MoodStore.Store.Rows

/-!
Moods, lines and conversations as they are held in memory.

What was read from a row of the store carries the number of the row as its sequence id. The id stays
inside: it is not written to JSON, and what is read from JSON has none.
-/

namespace MoodStore

open Json (Codec)

def Tier.codec : Codec Tier := ⟨toJson, ofJson?⟩

def Mood.codec : Codec Mood := ⟨toJson, ofJson?⟩

def Line.codec : Codec Line := ⟨toJson, ofJson?⟩

def Conversation.codec : Codec Conversation := ⟨toJson, ofJson?⟩

/-- A mood, and the sequence id of its row if it has one. -/
structure HeldMood where
  name : String
  eyes : String
  tongue : String
  tier : Tier
  sequenceId : Option Int
  deriving DecidableEq, Repr

namespace HeldMood

/-- The mood as callers see it. -/
def shown (mood : HeldMood) : Mood := ⟨mood.name, mood.eyes, mood.tongue, mood.tier⟩

/-- A mood that was not read from a row. -/
def ofMood (mood : Mood) : HeldMood := ⟨mood.name, mood.eyes, mood.tongue, mood.tier, none⟩

/-- The mood without its sequence id. -/
def unnumbered (mood : HeldMood) : HeldMood := { mood with sequenceId := none }

def codec : Codec HeldMood := Mood.codec.through shown ofMood

end HeldMood

def MoodRow.held (row : MoodRow) : HeldMood :=
  ⟨row.name, row.eyes, row.tongue, .dynamic, some row.id⟩

structure HeldLine where
  id : String
  animal : String
  think : Bool
  text : String
  mood : HeldMood
  deriving DecidableEq, Repr

namespace HeldLine

def shown (line : HeldLine) : Line := ⟨line.id, line.animal, line.think, line.text, line.mood.shown⟩

def ofLine (line : Line) : HeldLine :=
  ⟨line.id, line.animal, line.think, line.text, .ofMood line.mood⟩

def unnumbered (line : HeldLine) : HeldLine := { line with mood := line.mood.unnumbered }

def codec : Codec HeldLine := Line.codec.through shown ofLine

end HeldLine

/-- A conversation with held lines, and the sequence id of its row if it has one. -/
structure HeldConversation where
  id : String
  heading : String
  lines : List HeldLine
  sequenceId : Option Int
  deriving DecidableEq, Repr

namespace HeldConversation

def shown (conversation : HeldConversation) : Conversation :=
  ⟨conversation.id, conversation.heading, conversation.lines.map HeldLine.shown⟩

def ofConversation (conversation : Conversation) : HeldConversation :=
  ⟨conversation.id, conversation.heading, conversation.lines.map HeldLine.ofLine, none⟩

def unnumbered (conversation : HeldConversation) : HeldConversation :=
  { conversation with lines := conversation.lines.map HeldLine.unnumbered, sequenceId := none }

def codec : Codec HeldConversation := Conversation.codec.through shown ofConversation

end HeldConversation

/-- The conversation that is read from a row, without its lines. -/
def ConversationRow.held (row : ConversationRow) : HeldConversation :=
  ⟨row.publicId, row.heading, [], some row.id⟩

end MoodStore
