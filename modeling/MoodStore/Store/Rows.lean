import MoodStore.Conversation
import MoodStore.Fault

/-!
The three tables of a store and the statements that read and write them.

Row ids come from counters that never go back, so an id is never used twice. Each table lists its
rows in the order of their ids. A line refers to its conversation and, unless its mood is built in,
to a mood row; neither reference may dangle.
-/

namespace MoodStore

/-- A mood that a user owns; its `key` is the folded name. -/
structure MoodRow where
  id : Nat
  owner : String
  name : String
  key : String
  eyes : String
  tongue : String
  deriving DecidableEq, Repr

structure ConversationRow where
  id : Nat
  publicId : String
  owner : String
  heading : String
  deriving DecidableEq, Repr

/-- A line refers to a conversation row and, unless its mood is built in, to a mood row. It keeps
the name that the mood had when the line was created. -/
structure LineRow where
  id : Nat
  publicId : String
  conversation : Nat
  mood : Option Nat
  moodName : String
  animal : String
  think : Bool
  text : String
  deriving DecidableEq, Repr

/-- The tables, and the largest row id each has ever used. -/
structure Rows where
  moods : List MoodRow
  conversations : List ConversationRow
  lines : List LineRow
  lastMood : Nat
  lastConversation : Nat
  lastLine : Nat
  deriving DecidableEq, Repr

def MoodRow.toMood (row : MoodRow) : Mood := .owned row.name row.eyes row.tongue

/-- The conversation as callers see it, without its lines. -/
def ConversationRow.toConversation (row : ConversationRow) : Conversation :=
  ⟨row.publicId, row.heading, []⟩

/-- The failure of an insert whose public id is taken. -/
def takenId (table : String) : Failure :=
  .result Failure.uniqueCode s!"UNIQUE constraint failed: {table}.public_id"

/-- The failure of a write after which a reference would dangle. -/
def danglingReference : Failure := .result Failure.foreignKeyCode "FOREIGN KEY constraint failed"

namespace Rows

/-- The tables of a store that was just created. -/
def empty : Rows := ⟨[], [], [], 0, 0, 0⟩

/-! ### Moods -/

/-- The row is the owner's mood with this key. -/
def isMood (owner key : String) (row : MoodRow) : Bool := row.owner == owner && row.key == key

/-- The owner's mood with this key. -/
def findMood? (rows : Rows) (owner key : String) : Option MoodRow :=
  rows.moods.find? (isMood owner key)

/-- The moods of an owner, oldest first. -/
def moodsOf (rows : Rows) (owner : String) : List MoodRow :=
  rows.moods.filter fun row => row.owner == owner

/-- What writing these eyes and this tongue over a row does. -/
def outcomeOn (row : MoodRow) (eyes tongue : String) : WriteOutcome :=
  if row.eyes = eyes ∧ row.tongue = tongue then .unchanged else .updated

/-- Writes the owner's mood with this name: in place, keeping the name, if there is one with its
key, and as a new row otherwise. -/
def writeMood (rows : Rows) (owner name eyes tongue : String) : MoodWrite × Rows :=
  let key := foldCase name
  match rows.findMood? owner key with
  | some row =>
    let written := { row with eyes, tongue }
    (⟨written.toMood, outcomeOn row eyes tongue⟩,
      { rows with moods := rows.moods.map fun r => if isMood owner key r then written else r })
  | none =>
    let row : MoodRow := ⟨rows.lastMood + 1, owner, name, key, eyes, tongue⟩
    (⟨row.toMood, .created⟩,
      { rows with moods := rows.moods ++ [row], lastMood := rows.lastMood + 1 })

/-- Some line refers to the mood row. -/
def isMoodUsed (rows : Rows) (row : MoodRow) : Bool :=
  rows.lines.any fun line => line.mood == some row.id

/-- Deletes the owner's mood with this key, and answers the number of deleted rows. A mood that a
line refers to is kept. -/
def deleteMood (rows : Rows) (owner key : String) : Except Failure Nat × Rows :=
  let doomed := rows.moods.filter (isMood owner key)
  if doomed.any rows.isMoodUsed then (.error danglingReference, rows)
  else (.ok doomed.length,
    { rows with moods := rows.moods.filter fun row => !isMood owner key row })

/-- The number of lines that refer to the owner's mood with this key. -/
def countLinesUsing (rows : Rows) (owner key : String) : Nat :=
  (rows.lines.filter fun line =>
    rows.moods.any fun row => isMood owner key row && line.mood == some row.id).length

/-! ### Conversations -/

/-- The row is the owner's conversation with this public id. -/
def isConversation (owner publicId : String) (row : ConversationRow) : Bool :=
  row.owner == owner && row.publicId == publicId

/-- The owner's conversation with this public id. -/
def findConversation? (rows : Rows) (owner publicId : String) : Option ConversationRow :=
  rows.conversations.find? (isConversation owner publicId)

/-- The conversations of an owner, oldest first. -/
def conversationsOf (rows : Rows) (owner : String) : List ConversationRow :=
  rows.conversations.filter fun row => row.owner == owner

/-- Inserts a conversation. Public ids are unique among all owners. -/
def insertConversation (rows : Rows) (publicId owner heading : String) :
    Except Failure ConversationRow × Rows :=
  if rows.conversations.any fun row => row.publicId == publicId then
    (.error (takenId "conversations"), rows)
  else
    let row : ConversationRow := ⟨rows.lastConversation + 1, publicId, owner, heading⟩
    (.ok row, { rows with
      conversations := rows.conversations ++ [row]
      lastConversation := rows.lastConversation + 1 })

/-- Deletes the owner's conversation with this public id and its lines, and answers the number of
deleted conversations. -/
def deleteConversation (rows : Rows) (owner publicId : String) : Nat × Rows :=
  let doomed := rows.conversations.filter (isConversation owner publicId)
  (doomed.length, { rows with
    conversations := rows.conversations.filter fun row => !isConversation owner publicId row
    lines := rows.lines.filter fun line => !doomed.any fun row => row.id == line.conversation })

/-! ### Lines -/

/-- The lines of a conversation row, oldest first. -/
def linesOf (rows : Rows) (conversation : Nat) : List LineRow :=
  rows.lines.filter fun line => line.conversation == conversation

/-- The mood row a line refers to. -/
def moodOf? (rows : Rows) (line : LineRow) : Option MoodRow :=
  line.mood.bind fun id => rows.moods.find? fun row => row.id == id

/-- The references of a line have live rows. -/
def refersToLive (rows : Rows) (line : LineRow) : Bool :=
  (rows.conversations.any fun row => row.id == line.conversation) &&
    line.mood.all fun id => rows.moods.any fun row => row.id == id

/-- Inserts a line, whose row id is given by the table. That its public id is taken is found
before that a reference dangles. -/
def insertLine (rows : Rows) (line : LineRow) : Except Failure LineRow × Rows :=
  let row := { line with id := rows.lastLine + 1 }
  if rows.lines.any fun other => other.publicId == line.publicId then
    (.error (takenId "lines"), rows)
  else if !rows.refersToLive row then (.error danglingReference, rows)
  else (.ok row, { rows with lines := rows.lines ++ [row], lastLine := rows.lastLine + 1 })

/-- The line lies in a conversation of the owner with this public id. -/
def isLineOf (rows : Rows) (owner conversation : String) (line : LineRow) : Bool :=
  rows.conversations.any fun row =>
    isConversation owner conversation row && row.id == line.conversation

/-- The line with this public id in the owner's conversation. -/
def findLine? (rows : Rows) (owner conversation publicId : String) : Option LineRow :=
  rows.lines.find? fun line =>
    line.publicId == publicId && rows.isLineOf owner conversation line

/-- Deletes the line with this public id from the owner's conversation, and answers the number of
deleted lines. -/
def deleteLine (rows : Rows) (owner conversation publicId : String) : Nat × Rows :=
  let isDoomed (line : LineRow) : Bool :=
    line.publicId == publicId && rows.isLineOf owner conversation line
  ((rows.lines.filter isDoomed).length,
    { rows with lines := rows.lines.filter fun line => !isDoomed line })

end Rows

end MoodStore
