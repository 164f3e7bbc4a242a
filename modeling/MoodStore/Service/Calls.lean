import MoodStore.Service.Conversations

/-!
The service: eleven operations over one database, each logging its refusals.

Faults of the store are logged as errors with their text; refusals that the caller can act on are
logged by code only. No event carries a heading, the text of a line, or eyes and tongue of a mood.
-/

namespace MoodStore

open Listing (Page Query)

/-- A service: its built-in moods, and how it draws numbers for ids. -/
structure Service (ρ : Type) where
  builtins : Catalog Mood
  draw : StateM (World ρ) UInt64

/-- The operations, with their arguments. -/
inductive Call where
  | listMoods (owner : String) (query : Query)
  | getMood (owner name : String)
  | setMood (owner name eyes tongue : String)
  | deleteMood (owner name : String)
  | listConversations (owner : String) (query : Query)
  | createConversation (owner heading : String)
  | getConversation (owner id : String)
  | deleteConversation (owner id : String)
  | createLine (owner conversation : String) (line : NewLine)
  | getLine (owner conversation id : String)
  | deleteLine (owner conversation id : String)
  deriving DecidableEq, Repr

/-- The name of the operation in log events. -/
def Call.name : Call → String
  | .listMoods .. => "list_moods"
  | .getMood .. => "get_mood"
  | .setMood .. => "set_mood"
  | .deleteMood .. => "delete_mood"
  | .listConversations .. => "list_conversations"
  | .createConversation .. => "create_conversation"
  | .getConversation .. => "get_conversation"
  | .deleteConversation .. => "delete_conversation"
  | .createLine .. => "create_line"
  | .getLine .. => "get_line"
  | .deleteLine .. => "delete_line"

inductive Reply where
  | moods (page : Page Mood)
  | mood (mood : Mood)
  | moodWrite (write : MoodWrite)
  | conversations (page : Page Conversation)
  | conversation (conversation : Conversation)
  | line (line : Line)
  | done
  deriving DecidableEq, Repr

namespace Service

variable {ρ α : Type}

/-- The event of a refusal. -/
def refusal (operation : String) (error : Error) : Event :=
  if error.isInternal then
    .of .error "repo_call" "service" "error"
      [("op", operation), ("error_code", error.code), ("error", error.message)]
  else
    .of .debug "repo_call" "service" "rejected" [("op", operation), ("error_code", error.code)]

/-- Logs the refusal of an operation. -/
def logged (operation : String) (action : Operation ρ α) : Operation ρ α :=
  tryCatch action fun error => do
    Operation.lift (World.emit (refusal operation error))
    throw error

/-- The event of a written mood. -/
def moodWritten (outcome : WriteOutcome) : Event :=
  .of .debug "set_mood" "service" "ok" [("outcome", outcome.label)]

/-- Lists the owner's moods, then the built-in ones. -/
def listMoods (service : Service ρ) (owner : String) (query : Query) : Operation ρ (Page Mood) :=
  logged (Call.listMoods owner query).name
    (Operation.reading (Moods.list service.builtins owner query))

def getMood (service : Service ρ) (owner name : String) : Operation ρ Mood :=
  logged (Call.getMood owner name).name (Operation.reading (Moods.get service.builtins owner name))

/-- Creates or updates a mood of the owner. -/
def setMood (service : Service ρ) (owner name eyes tongue : String) :
    Operation ρ MoodWrite := do
  let written ← logged (Call.setMood owner name eyes tongue).name
    (Moods.set service.builtins owner name eyes tongue)
  Operation.lift (World.emit (moodWritten written.outcome))
  return written

def deleteMood (service : Service ρ) (owner name : String) : Operation ρ Unit :=
  logged (Call.deleteMood owner name).name (Moods.delete service.builtins owner name)

/-- Lists the owner's conversations without their lines. -/
def listConversations (_ : Service ρ) (owner : String) (query : Query) :
    Operation ρ (Page Conversation) :=
  logged (Call.listConversations owner query).name
    (Operation.reading (Conversations.list owner query))

def createConversation (service : Service ρ) (owner heading : String) :
    Operation ρ Conversation :=
  logged (Call.createConversation owner heading).name
    (Conversations.create service.draw owner heading)

/-- Gets a conversation with its lines. -/
def getConversation (service : Service ρ) (owner id : String) : Operation ρ Conversation :=
  logged (Call.getConversation owner id).name
    (Operation.reading (Conversations.get service.builtins owner id))

/-- Deletes a conversation and its lines. -/
def deleteConversation (_ : Service ρ) (owner id : String) : Operation ρ Unit :=
  logged (Call.deleteConversation owner id).name (Conversations.delete owner id)

/-- Appends a line to a conversation. -/
def createLine (service : Service ρ) (owner conversation : String) (line : NewLine) :
    Operation ρ Line :=
  logged (Call.createLine owner conversation line).name
    (Conversations.createLine service.builtins service.draw owner conversation line)

def getLine (service : Service ρ) (owner conversation id : String) : Operation ρ Line :=
  logged (Call.getLine owner conversation id).name
    (Operation.reading (Conversations.getLine service.builtins owner conversation id))

def deleteLine (_ : Service ρ) (owner conversation id : String) : Operation ρ Unit :=
  logged (Call.deleteLine owner conversation id).name
    (Conversations.deleteLine owner conversation id)

def perform (service : Service ρ) : Call → Operation ρ Reply
  | .listMoods owner query => .moods <$> service.listMoods owner query
  | .getMood owner name => .mood <$> service.getMood owner name
  | .setMood owner name eyes tongue => .moodWrite <$> service.setMood owner name eyes tongue
  | .deleteMood owner name => (fun _ => .done) <$> service.deleteMood owner name
  | .listConversations owner query => .conversations <$> service.listConversations owner query
  | .createConversation owner heading =>
    .conversation <$> service.createConversation owner heading
  | .getConversation owner id => .conversation <$> service.getConversation owner id
  | .deleteConversation owner id => (fun _ => .done) <$> service.deleteConversation owner id
  | .createLine owner conversation line => .line <$> service.createLine owner conversation line
  | .getLine owner conversation id => .line <$> service.getLine owner conversation id
  | .deleteLine owner conversation id =>
    (fun _ => .done) <$> service.deleteLine owner conversation id

end Service

end MoodStore
