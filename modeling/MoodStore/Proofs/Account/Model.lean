import MoodStore.Proofs.Listing.Order
import MoodStore.Service.Calls

/-!
Accounts: what an owner has, as the owner sees it.

An account lists moods and conversations in the order of their creation, and each conversation lists
its lines. There are no row ids in it, and nothing of other owners. A call reads and changes only
the account of its owner; the one thing it needs from outside is the id of what it creates.
-/

namespace MoodStore

open Listing (Page Query answer)

/-- A line with the name of its mood, which is one of the account or else built in. -/
structure Note where
  id : String
  owned : Bool
  moodName : String
  animal : String
  think : Bool
  text : String
  deriving DecidableEq, Repr

/-- A conversation with its lines, oldest first. -/
structure Document where
  id : String
  heading : String
  notes : List Note
  deriving DecidableEq, Repr

/-- What a user owns, oldest first. -/
structure Account where
  moods : List Mood
  documents : List Document
  deriving DecidableEq, Repr

/-- The conversation without its lines. -/
def Document.toConversation (document : Document) : Conversation :=
  ⟨document.id, document.heading, []⟩

namespace Account

/-- The account of an owner who has done nothing. -/
def empty : Account := ⟨[], []⟩

/-! ### Moods -/

def hasKey (key : String) (mood : Mood) : Bool := foldCase mood.name == key

def mood? (account : Account) (key : String) : Option Mood := account.moods.find? (hasKey key)

/-- The mood that a name means, and whether it is owned. -/
def meaning? (account : Account) (builtins : Catalog Mood) (name : String) :
    Option (Mood × Bool) :=
  match builtins.get? name with
  | some mood => some (mood, false)
  | none => (account.mood? (foldCase name)).map fun mood => (mood, true)

/-- Where the mood that a name means stands in the listing of the moods. -/
def moodIndex? (account : Account) (builtins : Catalog Mood) (name : String) : Option ℕ :=
  match builtins.position? name with
  | some index => some (account.moods.length + index)
  | none => account.moods.findIdx? (hasKey (foldCase name))

/-- The mood with other eyes and another tongue, if it has this key. -/
def repainted (key eyes tongue : String) (mood : Mood) : Mood :=
  if hasKey key mood then { mood with eyes, tongue } else mood

/-- Writes a mood: over the one with its key, or behind all others. -/
def writeMood (account : Account) (name eyes tongue : String) : MoodWrite × Account :=
  let key := foldCase name
  match account.mood? key with
  | some mood =>
    let outcome : WriteOutcome :=
      if mood.eyes = eyes ∧ mood.tongue = tongue then .unchanged else .updated
    (⟨{ mood with eyes, tongue }, outcome⟩,
      { account with moods := account.moods.map (repainted key eyes tongue) })
  | none =>
    (⟨.owned name eyes tongue, .created⟩,
      { account with moods := account.moods ++ [.owned name eyes tongue] })

/-- The line has the owned mood with this key. -/
def refersTo (key : String) (note : Note) : Bool := note.owned && foldCase note.moodName == key

/-- The number of lines that have the owned mood with this key. -/
def uses (account : Account) (key : String) : ℕ :=
  (account.documents.flatMap Document.notes).countP (refersTo key)

def listMoods (account : Account) (builtins : Catalog Mood) (query : Query) :
    Except Error (Page Mood) :=
  answer (account.moods ++ builtins.entries) (account.moodIndex? builtins) query

def getMood (account : Account) (builtins : Catalog Mood) (name : String) : Except Error Mood :=
  match account.meaning? builtins name with
  | some (mood, _) => .ok mood
  | none => .error .notFound

def setMood (account : Account) (builtins : Catalog Mood) (name eyes tongue : String) :
    Except Error MoodWrite × Account :=
  if builtins.contains name then (.error (.protectedEntity name), account)
  else (.ok (account.writeMood name eyes tongue).1, (account.writeMood name eyes tongue).2)

def deleteMood (account : Account) (builtins : Catalog Mood) (name : String) :
    Except Error Unit × Account :=
  let key := foldCase name
  if builtins.contains name then (.error (.protectedEntity name), account)
  else if account.mood? key = none then (.error .notFound, account)
  else if account.uses key = 0 then
    (.ok (), { account with moods := account.moods.filter fun mood => !hasKey key mood })
  else (.error (.hasDependents name "lines" (account.uses key)), account)

/-! ### Conversations -/

def document? (account : Account) (id : String) : Option Document :=
  account.documents.find? fun document => document.id == id

/-- Changes the lines of the conversation with this id. -/
def editNotes (account : Account) (id : String) (edit : List Note → List Note) : Account :=
  { account with documents := account.documents.map fun document =>
      if document.id == id then { document with notes := edit document.notes } else document }

/-- The mood that a line is shown with. -/
def noteMood (account : Account) (builtins : Catalog Mood) (note : Note) : Except Error Mood :=
  match if note.owned then account.mood? (foldCase note.moodName) else none with
  | some mood => .ok mood
  | none =>
    match builtins.get? note.moodName with
    | some mood => .ok mood
    | none =>
      .error (.internal (.invalidData
        s!"unknown built-in mood `{note.moodName}` in lines.mood_name"))

def showNote (account : Account) (builtins : Catalog Mood) (note : Note) : Except Error Line := do
  let mood ← account.noteMood builtins note
  return ⟨note.id, note.animal, note.think, note.text, mood⟩

def listConversations (account : Account) (query : Query) : Except Error (Page Conversation) :=
  answer (account.documents.map Document.toConversation)
    (fun id => account.documents.findIdx? fun document => document.id == id) query

def createConversation (account : Account) (newId? : Option String) (heading : String) :
    Except Error Conversation × Account :=
  match newId? with
  | some id =>
    (.ok ⟨id, heading, []⟩, { account with documents := account.documents ++ [⟨id, heading, []⟩] })
  | none => (.error (.internal (.idSpaceExhausted conversationTag Ids.maxAttempts)), account)

def getConversation (account : Account) (builtins : Catalog Mood) (id : String) :
    Except Error Conversation :=
  match account.document? id with
  | some document => do
    let lines ← document.notes.mapM (account.showNote builtins)
    return { document.toConversation with lines }
  | none => .error .notFound

def deleteConversation (account : Account) (id : String) : Except Error Unit × Account :=
  if account.document? id = none then (.error .notFound, account)
  else (.ok (), { account with documents := account.documents.filter fun document =>
    !(document.id == id) })

/-! ### Lines -/

def note? (account : Account) (conversation id : String) : Option Note :=
  (account.document? conversation).bind fun document =>
    document.notes.find? fun note => note.id == id

def createLine (account : Account) (builtins : Catalog Mood) (newId? : Option String)
    (conversation : String) (line : NewLine) : Except Error Line × Account :=
  match account.meaning? builtins line.mood with
  | none => (.error (Conversations.unknownMood line.mood), account)
  | some (mood, owned) =>
    if account.document? conversation = none then (.error .notFound, account)
    else match newId? with
      | some id =>
        (.ok ⟨id, line.animal, line.think, line.text, mood⟩,
          account.editNotes conversation fun notes =>
            notes ++ [⟨id, owned, mood.name, line.animal, line.think, line.text⟩])
      | none => (.error (.internal (.idSpaceExhausted lineTag Ids.maxAttempts)), account)

def getLine (account : Account) (builtins : Catalog Mood) (conversation id : String) :
    Except Error Line :=
  match account.note? conversation id with
  | some note => account.showNote builtins note
  | none => .error .notFound

def deleteLine (account : Account) (conversation id : String) : Except Error Unit × Account :=
  if account.note? conversation id = none then (.error .notFound, account)
  else (.ok (), account.editNotes conversation fun notes =>
    notes.filter fun note => !(note.id == id))

/-! ### Calls -/

/-- What a call of the owner answers, and the account that it leaves. A call that creates something
is given the id for it, unless it was drawn none that is free. -/
def perform (account : Account) (builtins : Catalog Mood) (newId? : Option String) :
    Call → Except Error Reply × Account
  | .listMoods _ query => ((account.listMoods builtins query).map .moods, account)
  | .getMood _ name => ((account.getMood builtins name).map .mood, account)
  | .setMood _ name eyes tongue =>
    ((account.setMood builtins name eyes tongue).1.map .moodWrite,
      (account.setMood builtins name eyes tongue).2)
  | .deleteMood _ name =>
    ((account.deleteMood builtins name).1.map fun _ => .done, (account.deleteMood builtins name).2)
  | .listConversations _ query => ((account.listConversations query).map .conversations, account)
  | .createConversation _ heading =>
    ((account.createConversation newId? heading).1.map .conversation,
      (account.createConversation newId? heading).2)
  | .getConversation _ id => ((account.getConversation builtins id).map .conversation, account)
  | .deleteConversation _ id =>
    ((account.deleteConversation id).1.map fun _ => .done, (account.deleteConversation id).2)
  | .createLine _ conversation line =>
    ((account.createLine builtins newId? conversation line).1.map .line,
      (account.createLine builtins newId? conversation line).2)
  | .getLine _ conversation id =>
    ((account.getLine builtins conversation id).map .line, account)
  | .deleteLine _ conversation id =>
    ((account.deleteLine conversation id).1.map fun _ => .done,
      (account.deleteLine conversation id).2)

end Account

def Call.owner : Call → String
  | .listMoods owner _ | .getMood owner _ | .setMood owner _ _ _ | .deleteMood owner _
  | .listConversations owner _ | .createConversation owner _ | .getConversation owner _
  | .deleteConversation owner _ | .createLine owner _ _ | .getLine owner _ _
  | .deleteLine owner _ _ => owner

end MoodStore
