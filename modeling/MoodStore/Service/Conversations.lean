import MoodStore.Ids
import MoodStore.Service.Moods
import MoodStore.Text.Quoted

/-!
Operations on the conversations of one owner and on their lines.

New rows get freshly drawn ids. Other callers may act at every draw, so a row that was looked up
can be gone when the line is inserted; the insert then fails and names what vanished.
-/

namespace MoodStore.Conversations

open Listing (DynamicTier Page Query)

/-- An owner's conversations as the dynamic tier of a listing. -/
def tier (db : Database) (owner : String) : DynamicTier (Except Error) Nat Conversation where
  resolve publicId := do
    let rows ← db.rowsOrError
    return (rows.findConversation? owner publicId).map ConversationRow.id
  queryFrom from? direction count := do
    let rows ← db.rowsOrError
    return ((Moods.beyond ConversationRow.id from? direction (rows.conversationsOf owner)).take
      count).map ConversationRow.toConversation

/-- One page of the owner's conversations, without their lines. -/
def list (owner : String) (query : Query) (db : Database) : Except Error (Page Conversation) :=
  Listing.list Catalog.empty (tier db owner) query

def find? (owner publicId : String) (db : Database) : Except Error (Option ConversationRow) := do
  return (← db.rowsOrError).findConversation? owner publicId

/-- The mood a stored line is shown with: the live row it refers to, or the built-in mood of its
stored name. -/
def lineMood (builtins : Catalog Mood) (rows : Rows) (line : LineRow) : Except Error Mood :=
  match rows.moodOf? line with
  | some row => .ok row.toMood
  | none =>
    match builtins.get? line.moodName with
    | some mood => .ok mood
    | none =>
      .error (.internal (.invalidData
        s!"unknown built-in mood `{line.moodName}` in lines.mood_name"))

/-- A stored line as callers see it. -/
def showLine (builtins : Catalog Mood) (rows : Rows) (line : LineRow) : Except Error Line := do
  let mood ← lineMood builtins rows line
  return ⟨line.publicId, line.animal, line.think, line.text, mood⟩

/-- A conversation with all its lines, oldest first. -/
def get (builtins : Catalog Mood) (owner publicId : String) (db : Database) :
    Except Error Conversation := do
  let rows ← db.rowsOrError
  match rows.findConversation? owner publicId with
  | none => throw .notFound
  | some row =>
    let lines ← (rows.linesOf row.id).mapM (showLine builtins rows)
    return { row.toConversation with lines }

def getLine (builtins : Catalog Mood) (owner conversation publicId : String) (db : Database) :
    Except Error Line := do
  let rows ← db.rowsOrError
  match rows.findLine? owner conversation publicId with
  | none => throw .notFound
  | some line => showLine builtins rows line

variable {ρ : Type}

def create (draw : StateM (World ρ) UInt64) (owner heading : String) :
    Operation ρ Conversation := do
  let inserted ← Operation.lift <| Ids.insertUnique conversationTag draw
    (fun id => World.execute fun rows => rows.insertConversation id owner heading) World.emit
  match inserted with
  | .ok row => return row.toConversation
  | .error error => throw error.toError

/-- Deletes a conversation and its lines. -/
def delete (owner publicId : String) : Operation ρ Unit := do
  let deleted ← Operation.executing fun rows =>
    let (count, rows) := rows.deleteConversation owner publicId
    (.ok count, rows)
  if deleted = 0 then throw .notFound

/-- The refusal of a line whose mood does not exist. -/
def unknownMood (name : String) : Error := .validation "mood" (quoted name ++ " does not exist")

/-- The row of a new line, but for its row id. -/
def newRow (conversation : ConversationRow) (mood : Option MoodRow) (moodName publicId : String)
    (line : NewLine) : LineRow :=
  ⟨0, publicId, conversation.id, mood.map MoodRow.id, moodName, line.animal, line.think, line.text⟩

/-- Inserts a line whose mood and conversation were found. -/
def insertLine (draw : StateM (World ρ) UInt64) (owner : String) (conversation : ConversationRow)
    (row? : Option MoodRow) (mood : Mood) (line : NewLine) : Operation ρ Line := do
  let inserted ← Operation.lift <| Ids.insertUnique lineTag draw
    (fun id => World.execute fun rows =>
      rows.insertLine (newRow conversation row? mood.name id line)) World.emit
  match inserted with
  | .ok row => return ⟨row.publicId, line.animal, line.think, line.text, mood⟩
  | .error (.fault (.foreignKeyViolation _)) =>
    match ← Operation.reading (find? owner conversation.publicId) with
    | none => throw .notFound
    | some _ => throw (unknownMood line.mood)
  | .error error => throw error.toError

/-- Appends a line to a conversation. The mood is looked up before the conversation. -/
def createLine (builtins : Catalog Mood) (draw : StateM (World ρ) UInt64)
    (owner conversation : String) (line : NewLine) : Operation ρ Line := do
  let meaning ← Operation.reading (Moods.meaning builtins owner line.mood)
  match meaning.mood? with
  | none => throw (unknownMood line.mood)
  | some mood =>
    match ← Operation.reading (find? owner conversation) with
    | none => throw .notFound
    | some row =>
      insertLine draw owner row meaning.row? mood line

def deleteLine (owner conversation publicId : String) : Operation ρ Unit := do
  let deleted ← Operation.executing fun rows =>
    let (count, rows) := rows.deleteLine owner conversation publicId
    (.ok count, rows)
  if deleted = 0 then throw .notFound

end MoodStore.Conversations
