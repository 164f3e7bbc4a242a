import MoodStore.Listing.Walk
import MoodStore.Service.Calls
import MoodStore.Store.Opening

/-!
Sessions: steps carried out one after the other by services that share a database and a source of
draws.

The source yields given draws and then counts. A given draw may first let another caller act: its
step runs in full, and may itself draw from what is left, before the number is handed over. The
caller that draws holds its connection meanwhile, and a step that finds none free is refused.
-/

namespace MoodStore

open Listing (Page Query Walk)

inductive Request where
  | params (after before : Option String) (limit : Option Nat)
  | direct (query : Query)
  deriving DecidableEq, Repr

/-- The query of a request. -/
def Request.query : Request → Except Error Query
  | params after before limit => Query.ofParams after before limit
  | direct query => .ok query

namespace Session

/-- One step; services are named by their place in the list of catalogs. A store can also be closed
and opened again, and asked to show itself. -/
inductive Step where
  | call (service : Nat) (call : Call)
  | listMoods (service : Nat) (owner : String) (request : Request)
  | listConversations (service : Nat) (owner : String) (request : Request)
  | walkMoods (service : Nat) (owner : String) (walk : Walk)
  | walkConversations (service : Nat) (owner : String) (walk : Walk)
  | reopen
  | schemaVersion
  | hasTable (name : String)
  | describe
  deriving DecidableEq, Repr

/-- What a step gives. A walk gives the ids on each page and whether more lie beyond it. -/
inductive Answer where
  | reply (reply : Reply)
  | refused (error : Error)
  | pages (pages : List (List String × Bool))
  | version (version : Nat)
  | found (found : Bool)
  | text (text : String)
  | failed (error : DbError)
  deriving DecidableEq, Repr

/-- A number to draw, and what another caller does before it is handed over. -/
structure Draw where
  before : Option Step
  value : UInt64
  deriving DecidableEq, Repr

/-- The state of the draw source: the draws still to be given, the number that stands in when there
are none, and what other callers' steps were answered, oldest first. -/
structure Script where
  draws : List Draw
  counter : UInt64
  races : List Answer
  deriving DecidableEq, Repr

/-- What the steps share: the built-in moods of each service, and the settings of the store if it is
a file. -/
structure Setup where
  catalogs : List (Catalog Mood)
  config : Option StoreConfig
  deriving DecidableEq, Repr

/-- Actions of a session. -/
abbrev Act (α : Type) : Type := StateM (World Script) α

/-- How many pages a walk may have. -/
def maxPages : Nat := 400

/-- How many connections the store has. -/
def Setup.connections (setup : Setup) : Nat := setup.config.elim 1 StoreConfig.poolSize

/-- How the store shows itself while some of its connections are held. -/
def describe (connections held : Nat) : String :=
  let idle := connections - held
  s!"Store \x7b connections: {connections}, idle_connections: {idle} \x7d"

/-- The next draw; `act` carries out the steps of other callers. -/
def drawing (act : Step → Act Answer) : Act UInt64 := fun world =>
  match world.source.draws with
  | [] => (world.source.counter,
      { world with source := { world.source with counter := world.source.counter + 1 } })
  | draw :: draws =>
    let world := { world with source := { world.source with draws } }
    match draw.before with
    | none => (draw.value, world)
    | some step =>
      let (answer, world) := act step world
      (draw.value,
        { world with source := { world.source with races := world.source.races ++ [answer] } })

def answering (operation : Operation Script Reply) : Act Answer := do
  match ← operation.run with
  | .ok reply => return .reply reply
  | .error error => return .refused error

/-- The answer of a listing request. -/
def requesting (request : Request) (list : Query → Operation Script Reply) : Act Answer :=
  match request.query with
  | .ok query => answering (list query)
  | .error error => return .refused error

def walking {α : Type} [Entry α] (walk : Walk) (list : Query → Operation Script (Page α)) :
    Act Answer := do
  match ← walk.run (fun query => (list query).run) maxPages with
  | (_, some error) => return .refused error
  | (pages, none) => return .pages (pages.map fun page => (page.items.map Entry.id, page.hasMore))

def reopening (setup : Setup) : Act Answer := fun world =>
  match setup.config with
  | none => (.reply .done, world)
  | some config =>
    match Opening.openFile config (.database world.database) 0 with
    | (.store database, _, events) =>
      (.reply .done, { world with database, log := world.log ++ events })
    | (.failed error, _, events) => (.failed error, { world with log := world.log ++ events })
    | (.crashed message, _, events) => (.text message, { world with log := world.log ++ events })

/-- An operation that needs a connection: refused when every connection is held. -/
def connected {α : Type} (isFree : Bool) (call : Call) (operation : Operation Script α) :
    Operation Script α :=
  if isFree then operation
  else Service.logged call.name (throw (.ofDbError Opening.timedOut))

/-- The answer of a question to the store itself, which needs a connection too. -/
def asking (isFree : Bool) (question : Database → Answer) : Act Answer := do
  if isFree then return question (← get).database else return .failed Opening.timedOut

/-- Carries out a step with a source of draws, while other callers hold `held` connections. -/
def perform (setup : Setup) (held : Nat) (draw : Act UInt64) (step : Step) : Act Answer :=
  let isFree : Bool := held < setup.connections
  let service (index : Nat) : Service Script :=
    ⟨setup.catalogs.getD index builtinMoods, draw⟩
  let calling (index : Nat) (call : Call) : Operation Script Reply :=
    connected isFree call ((service index).perform call)
  match step with
  | .call index call => answering (calling index call)
  | .listMoods index owner request =>
    requesting request fun query => calling index (.listMoods owner query)
  | .listConversations index owner request =>
    requesting request fun query => calling index (.listConversations owner query)
  | .walkMoods index owner walk =>
    walking walk fun query =>
      connected isFree (.listMoods owner query) ((service index).listMoods owner query)
  | .walkConversations index owner walk =>
    walking walk fun query =>
      connected isFree (.listConversations owner query)
        ((service index).listConversations owner query)
  | .reopen => reopening setup
  | .schemaVersion => asking isFree fun db => .version db.version.toNat
  | .hasTable name => asking isFree fun db => .found (db.hasTable name)
  | .describe => return .text (describe setup.connections held)

/-- Carries out a step while at most `depth` given draws are left. A step that draws holds a
connection meanwhile. -/
def actWithin (setup : Setup) : (depth held : Nat) → Step → Act Answer
  | 0, held, step => perform setup held (drawing fun _ => return .reply .done) step
  | depth + 1, held, step =>
    perform setup held (drawing (actWithin setup depth (held + 1))) step

/-- Carries out a step. Every step of another caller takes a draw, so none is lost to the bound. -/
def act (setup : Setup) (step : Step) : Act Answer := do
  actWithin setup (← get).source.draws.length 0 step

/-- What a step gave, what other callers' steps gave meanwhile, and what was logged. -/
structure Result where
  answer : Answer
  races : List Answer
  log : List Event

/-- Carries out the steps one after the other. -/
def run (setup : Setup) (world : World Script) : List Step → List Result
  | [] => []
  | step :: steps =>
    let fresh := { world with log := [], source := { world.source with races := [] } }
    let (answer, world) := (act setup step).run fresh
    ⟨answer, world.source.races, world.log⟩ :: run setup world steps

end Session

end MoodStore
