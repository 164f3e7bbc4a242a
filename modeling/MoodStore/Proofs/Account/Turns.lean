import MoodStore.Proofs.Account.Documents

/-!
Calls that are given their draws.

A turn is a call with a stream of numbers to draw. What it creates gets the first of the drawn ids
that no row has, and it draws no further than that.
-/

namespace MoodStore

variable {α : Type}

/-! ### Ids that are drawn -/

inductive Kind where
  | conversation
  | line
  deriving DecidableEq, Repr

def Kind.tag : Kind → String
  | conversation => conversationTag
  | line => lineTag

def Kind.table : Kind → String
  | conversation => "conversations"
  | line => "lines"

/-- Some row has the id. -/
def Rows.isTaken (rows : Rows) : Kind → String → Bool
  | .conversation, id => rows.conversations.any fun row => row.publicId == id
  | .line, id => rows.lines.any fun line => line.publicId == id

/-- The account has something with the id. -/
def Account.has (account : Account) : Kind → String → Bool
  | .conversation, id => account.documents.any fun document => document.id == id
  | .line, id => account.documents.any fun document => document.notes.any fun note => note.id == id

lemma isTaken_of_has {rows : Rows} {owner : String} {kind : Kind} {id : String}
    (h : (rows.account owner).has kind id = true) : rows.isTaken kind id = true := by
  cases kind with
  | conversation =>
    obtain ⟨document, hdocument, hid⟩ := List.any_eq_true.mp h
    obtain ⟨row, hrow, rfl⟩ := List.mem_map.mp hdocument
    exact List.any_eq_true.mpr ⟨row, (Rows.mem_conversationsOf.mp hrow).1, hid⟩
  | line =>
    obtain ⟨document, hdocument, hnotes⟩ := List.any_eq_true.mp h
    obtain ⟨row, -, rfl⟩ := List.mem_map.mp hdocument
    obtain ⟨note, hnote, hid⟩ := List.any_eq_true.mp hnotes
    obtain ⟨line, hline, rfl⟩ := List.mem_map.mp hnote
    exact List.any_eq_true.mpr ⟨line, List.mem_of_mem_filter hline, hid⟩

lemma exists_has {catalogs : Set (Catalog Mood)} {rows : Rows} (h : rows.Sound catalogs)
    {kind : Kind} {id : String} (htaken : rows.isTaken kind id = true) :
    ∃ owner, (rows.account owner).has kind id = true := by
  cases kind with
  | conversation =>
    obtain ⟨row, hrow, hid⟩ := List.any_eq_true.mp htaken
    exact ⟨row.owner, List.any_eq_true.mpr
      ⟨_, List.mem_map_of_mem (Rows.mem_conversationsOf.mpr ⟨hrow, rfl⟩), hid⟩⟩
  | line =>
    obtain ⟨line, hline, hid⟩ := List.any_eq_true.mp htaken
    obtain ⟨row, hrow, hhome⟩ := h.home line hline
    have hnote : line.toNote ∈ (rows.document row).notes :=
      List.mem_map_of_mem (List.mem_filter.mpr ⟨hline, by simp [hhome]⟩)
    exact ⟨row.owner, List.any_eq_true.mpr
      ⟨_, List.mem_map_of_mem (Rows.mem_conversationsOf.mpr ⟨hrow, rfl⟩),
        List.any_eq_true.mpr ⟨_, hnote, hid⟩⟩⟩

/-- The ids of draws number `start`, `start + 1`, … -/
def Ids.drawn (tag : String) (draws : ℕ → UInt64) (start count : ℕ) : List String :=
  (List.range count).map fun n => publicId tag (draws (start + n))

lemma Ids.drawn_succ (tag : String) (draws : ℕ → UInt64) (start count : ℕ) :
    drawn tag draws start (count + 1) =
      publicId tag (draws start) :: drawn tag draws (start + 1) count := by
  simp only [drawn, List.range_succ_eq_map, List.map_cons, List.map_map, Nat.add_zero]
  refine congrArg _ (List.map_congr_left fun n _ => ?_)
  rw [Function.comp_apply, Nat.add_right_comm]
  rfl

/-- A source that yields the numbers of a stream, and counts how many it has yielded. -/
def drawFrom (draws : ℕ → UInt64) : StateM (World ℕ) UInt64 := fun world =>
  (draws world.source, { world with source := world.source + 1 })

/-- Inserting takes the first drawn id that is free, and the draws up to it. -/
lemma Ids.insertFrom_drawFrom (kind : Kind) (draws : ℕ → UInt64) (rows : Rows)
    (statement : String → Rows → Except Failure α × Rows) (row : String → α)
    (hfree : ∀ id, rows.isTaken kind id = false → (statement id rows).1 = .ok (row id))
    (htaken : ∀ id, rows.isTaken kind id = true →
      statement id rows = (.error (takenId kind.table), rows))
    (left attempt : ℕ) (world : World ℕ) (hrows : world.database.rows = some rows) :
    let ids := drawn kind.tag draws world.source left
    let isFree (id : String) : Bool := !rows.isTaken kind id
    ∃ log, insertFrom kind.tag (drawFrom draws) (fun id => World.execute (statement id)) World.emit
        attempt left world =
      (match ids.find? isFree with
        | some id => .ok (row id)
        | none => .error (.exhausted kind.tag maxAttempts),
      { database := { world.database with
          rows := some ((ids.find? isFree).elim rows fun id => (statement id rows).2) }
        log
        source := world.source + min left (ids.findIdx isFree + 1) }) := by
  induction left generalizing attempt world with
  | zero =>
    have hsame : world.database = { world.database with rows := some rows } := by rw [← hrows]
    let log := world.log ++ [exhaustion kind.tag maxAttempts]
    let answer : Except InsertError α := .error (.exhausted kind.tag maxAttempts)
    exact ⟨log, congrArg (fun database => (answer, World.mk database log world.source)) hsame⟩
  | succ left ih =>
    have hunique : (Fault.classify (takenId kind.table)).isUnique = true := by
      cases kind <;> rfl
    simp only [drawn_succ, insertFrom_succ, drawFrom, World.execute, Database.write_of_rows hrows]
    cases hid : rows.isTaken kind (publicId kind.tag (draws world.source)) with
    -- a free id ends the search; a taken one costs a draw and leaves the tables
    | false =>
      refine ⟨world.log, ?_⟩
      rw [List.find?_cons_of_pos (by rw [hid]; rfl), hfree _ hid, List.findIdx_cons, hid,
        Nat.min_eq_right (by simp)]
      rfl
    | true =>
      obtain ⟨log, hnext⟩ := ih (attempt + 1) ⟨{ world.database with rows := some rows },
        world.log ++ [collision kind.tag attempt], world.source + 1⟩ rfl
      refine ⟨log, ?_⟩
      rw [List.find?_cons_of_neg (by rw [hid]; exact Bool.false_ne_true), htaken _ hid,
        List.findIdx_cons, hid]
      simp only [hunique, if_true, Bool.not_true, cond_false]
      refine hnext.trans ?_
      simp only [Nat.add_min_add_right, Nat.add_assoc, Nat.add_comm 1]

namespace Rows

/-- The first drawn id that no row has, if one attempt hits on it. -/
def pick? (rows : Rows) (draws : ℕ → UInt64) (start : ℕ) (kind : Kind) : Option String :=
  (Ids.drawn kind.tag draws start Ids.maxAttempts).find? fun id => !rows.isTaken kind id

/-- The number of draws that it takes to pick an id. -/
def spent (rows : Rows) (draws : ℕ → UInt64) (start : ℕ) (kind : Kind) : ℕ :=
  min Ids.maxAttempts
    ((Ids.drawn kind.tag draws start Ids.maxAttempts).findIdx (fun id => !rows.isTaken kind id) + 1)

lemma isTaken_of_pick? {rows : Rows} {draws : ℕ → UInt64} {start : ℕ} {kind : Kind} {id : String}
    (h : rows.pick? draws start kind = some id) : rows.isTaken kind id = false := by
  simpa using List.find?_some h

end Rows

lemma Ids.insertUnique_drawFrom (kind : Kind) (draws : ℕ → UInt64) {rows : Rows}
    (statement : String → Rows → Except Failure α × Rows) (row : String → α)
    (hfree : ∀ id, rows.isTaken kind id = false → (statement id rows).1 = .ok (row id))
    (htaken : ∀ id, rows.isTaken kind id = true →
      statement id rows = (.error (takenId kind.table), rows))
    {world : World ℕ} (hrows : world.database.rows = some rows) :
    let id? := rows.pick? draws world.source kind
    ∃ log, insertUnique kind.tag (drawFrom draws) (fun id => World.execute (statement id))
        World.emit world =
      (match id? with
        | some id => .ok (row id)
        | none => .error (.exhausted kind.tag maxAttempts),
      { database := { world.database with
          rows := some (id?.elim rows fun id => (statement id rows).2) }
        log
        source := world.source + rows.spent draws world.source kind }) :=
  insertFrom_drawFrom kind draws rows statement row hfree htaken maxAttempts 1 world hrows

/-! ### Turns -/

/-- A call to a service with these built-in moods, and the stream of numbers it is given to draw. -/
structure Turn where
  builtins : Catalog Mood
  call : Call
  draws : ℕ → UInt64

/-- What a call creates, if it comes to that. -/
def Account.creates? (account : Account) (builtins : Catalog Mood) : Call → Option Kind
  | .createConversation _ _ => some .conversation
  | .createLine _ conversation line =>
    if account.meaning? builtins line.mood = none ∨ account.document? conversation = none then none
    else some .line
  | _ => none

namespace Turn

/-- The turn is taken: what the call answers, and what it leaves of the database. -/
def take (turn : Turn) (db : Database) : Except Error Reply × World ℕ :=
  (Service.mk turn.builtins (drawFrom turn.draws)).perform turn.call ⟨db, [], 0⟩

def answer (turn : Turn) (db : Database) : Except Error Reply := (turn.take db).1

def after (turn : Turn) (db : Database) : Database := (turn.take db).2.database

lemma reaches {catalogs : Set (Catalog Mood)} (turn : Turn) (allowed : turn.builtins ∈ catalogs)
    (db : Database) : Reaches catalogs db (turn.after db) :=
  let service : Service ℕ := ⟨turn.builtins, drawFrom turn.draws⟩
  have hallowed : service.builtins ∈ catalogs := allowed
  .call (.refl db) service hallowed (fun world => .refl world.database) turn.call

/-- The numbers that the call has drawn. -/
def handed (turn : Turn) (db : Database) : List UInt64 :=
  (List.range (turn.take db).2.source).map turn.draws

/-- The id of what the call creates. -/
def newId? (turn : Turn) (rows : Rows) : Option String :=
  ((rows.account turn.call.owner).creates? turn.builtins turn.call).bind (rows.pick? turn.draws 0)

/-- How many numbers the call draws. -/
def count (turn : Turn) (rows : Rows) : ℕ :=
  ((rows.account turn.call.owner).creates? turn.builtins turn.call).elim 0
    (rows.spent turn.draws 0)

end Turn

end MoodStore
