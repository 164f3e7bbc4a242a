import Mathlib.Data.Set.Insert
import Mathlib.Logic.Function.Iterate
import MoodStore.Proofs.Account.Turns

/-!
Creations take effect at one moment.

A creation looks up what it refers to and then inserts under drawn ids, and other callers may act at
every draw. If it succeeds, it has done to the tables that it then found what the same call does to
them when nobody interrupts it; if it is refused, it has done nothing.

What was looked up can be gone by then, or be replaced by something of the same name. But an insert
succeeds only if the rows that it refers to are alive, and a live row under a row id that was looked
up is the row that was looked up: who looks again finds it again.
-/

namespace MoodStore

variable {ρ α ε : Type} {catalogs : Set (Catalog Mood)}

/-! ### Other callers -/

/-- What callers share: the database, and the state of the source of draws. -/
abbrev Shared (ρ : Type) : Type := Database × ρ

def World.shared (world : World ρ) : Shared ρ := (world.database, world.source)

/-- What comes of a draw: the number, and what other callers have done by then. -/
structure Interlude (ρ : Type) where
  value : UInt64
  left : Shared ρ
  events : List Event

namespace Interlude

/-- The database that a call goes on with. -/
def database (interlude : Interlude ρ) : Database := interlude.left.1

/-- The same call when nobody interrupts it, given the drawn number. -/
def turn (interlude : Interlude ρ) (builtins : Catalog Mood) (call : Call) : Turn :=
  ⟨builtins, call, fun _ => interlude.value⟩

end Interlude

/-- What other callers do at a draw. They do not read the log. -/
abbrev Others (ρ : Type) : Type := Shared ρ → Interlude ρ

namespace Others

/-- Draws a number, after the others have acted. -/
def draw (others : Others ρ) : StateM (World ρ) UInt64 := fun world =>
  let interlude := others world.shared
  (interlude.value, ⟨interlude.left.1, world.log ++ interlude.events, interlude.left.2⟩)

/-- What the others alone make of the shared state in this many draws. -/
def alone (others : Others ρ) (count : ℕ) (shared : Shared ρ) : Shared ρ :=
  (fun shared => (others shared).left)^[count] shared

/-- Every draw leaves what calls can leave. -/
def Act (others : Others ρ) (catalogs : Set (Catalog Mood)) : Prop :=
  ∀ shared, Reaches catalogs shared.1 (others shared).database

lemma alone_succ (others : Others ρ) (count : ℕ) (shared : Shared ρ) :
    others.alone (count + 1) shared = others.alone count (others shared).left :=
  Function.iterate_succ_apply _ count shared

lemma Act.reaches {others : Others ρ} (act : others.Act catalogs) (count : ℕ)
    (shared : Shared ρ) : Reaches catalogs shared.1 (others.alone count shared).1 := by
  induction count generalizing shared with
  | zero => exact .refl _
  | succ count ih =>
    rw [alone_succ]
    exact (act shared).trans (ih _)

/-- The outcome of some attempts: a success is the effect of one of them on what the others have
left at its draw, and a failure leaves what the others alone leave. -/
def Atomic (others : Others ρ) (attempts : ℕ) (effect : Interlude ρ → α → Database → Prop)
    (world : World ρ) (outcome : Except ε α × World ρ) : Prop :=
  match outcome with
  | (.ok answer, after) => ∃ count < attempts,
    let interlude := others (others.alone count world.shared)
    effect interlude answer after.database ∧ after.source = interlude.left.2
  | (.error _, after) => ∃ count ≤ attempts, after.shared = others.alone count world.shared

namespace Atomic

variable {others : Others ρ} {effect : Interlude ρ → α → Database → Prop} {world : World ρ}

lemma refused (attempts : ℕ) (error : ε) :
    others.Atomic attempts effect world (.error error, world) :=
  ⟨0, Nat.zero_le _, rfl⟩

lemma logged {attempts : ℕ} {operation : Operation ρ α}
    (h : others.Atomic attempts effect world (operation world)) (name : String) :
    others.Atomic attempts effect world (Service.logged name operation world) := by
  rw [Service.logged_apply]
  rcases houtcome : operation world with ⟨_ | _, after⟩
  · rw [houtcome] at h
    exact h
  · rw [houtcome] at h
    exact h

lemma retried {attempts : ℕ} {drawn : World ρ} {outcome : Except ε α × World ρ}
    (hdrawn : drawn.shared = (others world.shared).left)
    (h : others.Atomic attempts effect drawn outcome) :
    others.Atomic (attempts + 1) effect world outcome := by
  rcases outcome with ⟨error | answer, after⟩
  · obtain ⟨count, hcount, hafter⟩ := h
    refine ⟨count + 1, Nat.succ_le_succ hcount, ?_⟩
    rw [alone_succ, ← hdrawn]
    exact hafter
  · obtain ⟨count, hcount, heffect⟩ := h
    refine ⟨count + 1, Nat.succ_lt_succ hcount, ?_⟩
    rw [alone_succ, ← hdrawn]
    exact heffect

end Atomic

end Others

/-! ### What a creation does -/

def Rows.withConversation (rows : Rows) (row : ConversationRow) : Rows :=
  { rows with conversations := rows.conversations ++ [row], lastConversation := row.id }

def Rows.withLine (rows : Rows) (line : LineRow) : Rows :=
  { rows with lines := rows.lines ++ [line], lastLine := line.id }

/-- The effect of creating a conversation: the uninterrupted call gives the same conversation and
leaves the same database, which has that one row more. -/
structure ConversationInserted (builtins : Catalog Mood) (owner heading : String)
    (interlude : Interlude ρ) (conversation : Conversation) (after : Database) : Prop where
  answer : (interlude.turn builtins (.createConversation owner heading)).answer
    interlude.database = .ok (.conversation conversation)
  leaves : (interlude.turn builtins (.createConversation owner heading)).after
    interlude.database = after
  row : ∃ rows, interlude.database.rows = some rows ∧
    after = { interlude.database with rows := some (rows.withConversation
      ⟨rows.lastConversation + 1, conversation.id, owner, heading⟩) }

/-- The effect of creating a line with references that were looked up in the database `seen`: the
uninterrupted call gives the same line, but for the eyes and the tongue of its mood, and leaves the
same database, which has that one row more. The line shows its mood as it was when it was looked up.
The row refers to what both lookups find, the earlier one and that of the uninterrupted call. -/
structure LineInserted (builtins : Catalog Mood) (owner conversation : String) (new : NewLine)
    (seen : Database) (interlude : Interlude ρ) (line : Line) (after : Database) : Prop where
  answer : ∃ eyes tongue, (interlude.turn builtins (.createLine owner conversation new)).answer
    interlude.database = .ok (.line { line with mood := { line.mood with eyes, tongue } })
  mood : Moods.get builtins owner new.mood seen = .ok line.mood
  leaves : (interlude.turn builtins (.createLine owner conversation new)).after
    interlude.database = after
  row : ∃ rows home mood?, interlude.database.rows = some rows ∧
    (∀ db ∈ [seen, interlude.database],
      Conversations.find? owner conversation db = .ok (some home) ∧
      (Moods.meaning builtins owner new.mood db).map (fun meaning =>
        meaning.row?.map MoodRow.id) = .ok mood?) ∧
    after = { interlude.database with rows := some (rows.withLine ⟨rows.lastLine + 1, line.id,
      home.id, mood?, line.mood.name, new.animal, new.think, new.text⟩) }

/-! ### Attempts -/

namespace Database

variable {db after : Database} {statement : Rows → Except Failure α × Rows}

lemma write_eq_ok {answer : α} (h : db.write statement = (.ok answer, after)) :
    ∃ rows rows', db.rows = some rows ∧ statement rows = (.ok answer, rows') ∧
      after = { db with rows := some rows' } := by
  unfold write at h
  split at h
  case h_1 rows hrows =>
    obtain ⟨hanswer, hafter⟩ := Prod.mk.inj h
    exact ⟨rows, _, hrows, Prod.ext hanswer rfl, hafter.symm⟩
  case h_2 => cases h

lemma write_eq_error (hundone : ∀ rows failure rows',
      statement rows = (.error failure, rows') → rows' = rows)
    {failure : Failure} (h : db.write statement = (.error failure, after)) : after = db := by
  unfold write at h
  split at h
  case h_1 rows hrows =>
    obtain ⟨hanswer, hafter⟩ := Prod.mk.inj h
    have hsame : (statement rows).2 = rows := hundone rows failure _ (Prod.ext hanswer rfl)
    simp only [← hafter, hsame, ← hrows]
  case h_2 => exact (Prod.mk.inj h).2.symm

end Database

namespace Ids

/-- A statement whose failures change nothing has its effect at one draw, or it has none. -/
lemma insertFrom_atomic (others : Others ρ) (tag : String)
    (statement : String → Rows → Except Failure α × Rows)
    (hundone : ∀ id rows failure rows', statement id rows = (.error failure, rows') → rows' = rows)
    (left attempt : ℕ) (world : World ρ) :
    others.Atomic left (fun interlude row after =>
        interlude.database.write (statement (publicId tag interlude.value)) = (.ok row, after))
      world (insertFrom tag others.draw (fun id => World.execute (statement id)) World.emit attempt
        left world) := by
  induction left generalizing attempt world with
  | zero => exact ⟨0, le_rfl, rfl⟩
  | succ left ih =>
    let interlude := others world.shared
    have hdraw : others.draw world = (interlude.value,
        ⟨interlude.left.1, world.log ++ interlude.events, interlude.left.2⟩) := rfl
    simp only [insertFrom_succ, hdraw, World.execute]
    rcases hwrite : interlude.left.1.write (statement (publicId tag interlude.value)) with
      ⟨failure | row, after⟩
    · obtain rfl := Database.write_eq_error (hundone _) hwrite
      simp only
      split
      · exact .retried rfl (ih _ _)
      · exact ⟨1, Nat.succ_le_succ (Nat.zero_le left), rfl⟩
    · exact ⟨0, Nat.succ_pos left, hwrite, rfl⟩

lemma insertUnique_of_write (tag : String) (statement : String → Rows → Except Failure α × Rows)
    {draws : ℕ → UInt64} {world : World ℕ} {row : α} {after : Database}
    (h : world.database.write (statement (publicId tag (draws world.source))) = (.ok row, after)) :
    insertUnique tag (drawFrom draws) (fun id => World.execute (statement id)) World.emit world =
      (.ok row, ⟨after, world.log, world.source + 1⟩) := by
  rw [insertUnique, maxAttempts, insertFrom_succ]
  simp only [drawFrom, World.execute, h]

end Ids

/-! ### What was looked up is found again -/

namespace Rows

variable {seen rows : Rows}

section Inserts

variable {publicId owner heading : String} {line : LineRow} {failure : Failure} {rows' : Rows}

lemma insertConversation_eq_ok {row : ConversationRow}
    (h : rows.insertConversation publicId owner heading = (.ok row, rows')) :
    row = ⟨rows.lastConversation + 1, publicId, owner, heading⟩ ∧
      rows' = rows.withConversation row := by
  unfold insertConversation at h
  split at h
  · cases h
  · cases h
    exact ⟨rfl, rfl⟩

lemma insertConversation_eq_error
    (h : rows.insertConversation publicId owner heading = (.error failure, rows')) :
    rows' = rows := by
  unfold insertConversation at h
  split at h
  · exact (Prod.mk.inj h).2.symm
  · cases h

lemma insertLine_cases (rows : Rows) (line : LineRow) :
    (∃ failure, rows.insertLine line = (.error failure, rows)) ∨
      rows.refersToLive line = true ∧
        rows.insertLine line = (.ok { line with id := rows.lastLine + 1 },
          rows.withLine { line with id := rows.lastLine + 1 }) := by
  cases hfree : rows.lines.any fun other => other.publicId == line.publicId with
  | true => exact .inl ⟨_, insertLine_of_taken hfree⟩
  | false =>
    cases hlive : rows.refersToLive line with
    | false => exact .inl ⟨_, insertLine_of_dangling hfree hlive⟩
    | true => exact .inr ⟨rfl, insertLine_of_live hfree hlive⟩

lemma insertLine_eq_ok {row : LineRow} (h : rows.insertLine line = (.ok row, rows')) :
    rows.refersToLive line = true ∧ row = { line with id := rows.lastLine + 1 } ∧
      rows' = rows.withLine row := by
  obtain ⟨_, hinsert⟩ | ⟨hlive, hinsert⟩ := rows.insertLine_cases line
  · cases h.symm.trans hinsert
  · cases h.symm.trans hinsert
    exact ⟨hlive, rfl, rfl⟩

lemma insertLine_eq_error (h : rows.insertLine line = (.error failure, rows')) :
    rows' = rows := by
  obtain ⟨_, hinsert⟩ | ⟨_, hinsert⟩ := rows.insertLine_cases line
  · exact (Prod.mk.inj (h.symm.trans hinsert)).2
  · cases h.symm.trans hinsert

end Inserts

namespace Later

variable (later : seen.Later rows) (sound : seen.Sound catalogs) (sound' : rows.Sound catalogs)

include later sound sound'

lemma findConversation?_eq {owner publicId : String} {home : ConversationRow}
    (hfind : seen.findConversation? owner publicId = some home)
    (hlive : ∃ row ∈ rows.conversations, row.id = home.id) :
    rows.findConversation? owner publicId = some home := by
  obtain ⟨hhome, howner, hid⟩ := sound.findConversation?_eq_some_iff.mp hfind
  obtain ⟨row, hrow, hrid⟩ := hlive
  have hsame : row = home := later.conversations.eq_of_id sound.conversations hhome hrow hrid
  subst hsame
  exact sound'.findConversation?_eq_some_iff.mpr ⟨hrow, howner, hid⟩

lemma findMood?_eq {owner key : String} {row : MoodRow}
    (hfind : seen.findMood? owner key = some row) (hlive : ∃ row' ∈ rows.moods, row'.id = row.id) :
    ∃ row', rows.findMood? owner key = some row' ∧ row'.id = row.id ∧ row'.name = row.name := by
  obtain ⟨hrow, howner, hkey⟩ := sound.findMood?_eq_some_iff.mp hfind
  obtain ⟨row', hrow', hid⟩ := hlive
  have hfixed : row'.fixed = row.fixed := later.moods.eq_of_id sound.moods hrow hrow' hid
  simp only [MoodRow.fixed, Prod.mk.injEq] at hfixed
  refine ⟨row', sound'.findMood?_eq_some_iff.mpr ⟨hrow', ?_, ?_⟩, hid, hfixed.2.1⟩
  · rw [hfixed.1, howner]
  · rw [hfixed.2.2, hkey]

end Later

end Rows

/-! ### Creating a conversation -/

lemma conversationInserted_of_write {builtins : Catalog Mood} {owner heading : String}
    {interlude : Interlude ρ} {row : ConversationRow} {after : Database}
    (hwrite : interlude.database.write (fun rows => rows.insertConversation
      (publicId conversationTag interlude.value) owner heading) = (.ok row, after)) :
    ConversationInserted builtins owner heading interlude row.toConversation after := by
  have htake := Conversations.create_apply (drawFrom fun _ => interlude.value) owner heading
    ⟨interlude.database, [], 0⟩
  rw [Ids.insertUnique_of_write conversationTag (fun id rows => rows.insertConversation id owner
    heading) hwrite] at htake
  refine ⟨?_, ?_, ?_⟩
  · simp only [Turn.answer, Turn.take, Interlude.turn, Service.perform, Service.createConversation,
      Operation.map_apply, Service.logged_answer, htake, Except.map]
  · simp only [Turn.after, Turn.take, Interlude.turn, Service.perform, Service.createConversation,
      Operation.map_apply, Service.logged_database, htake]
  · obtain ⟨rows, rows', hrows, hinsert, rfl⟩ := Database.write_eq_ok hwrite
    obtain ⟨rfl, rfl⟩ := Rows.insertConversation_eq_ok hinsert
    exact ⟨rows, hrows, rfl⟩

lemma create_atomic (others : Others ρ) (builtins : Catalog Mood) (owner heading : String)
    (world : World ρ) :
    others.Atomic Ids.maxAttempts (ConversationInserted builtins owner heading) world
      (Conversations.create others.draw owner heading world) := by
  have hatomic := Ids.insertFrom_atomic others conversationTag
    (fun id rows => rows.insertConversation id owner heading)
    (fun _ _ _ _ => Rows.insertConversation_eq_error) Ids.maxAttempts 1 world
  rw [Conversations.create_apply, Ids.insertUnique]
  rcases hinsert : Ids.insertFrom conversationTag others.draw _ World.emit 1 Ids.maxAttempts world
    with ⟨error | row, after⟩
  · rw [hinsert] at hatomic
    exact hatomic
  · rw [hinsert] at hatomic
    obtain ⟨count, hcount, hwrite, hsource⟩ := hatomic
    exact ⟨count, hcount, conversationInserted_of_write hwrite, hsource⟩

/-! ### Creating a line -/

lemma createLine_of_write {builtins : Catalog Mood} {owner conversation : String} {new : NewLine}
    {meaning : Moods.Meaning} {mood : Mood} {home : ConversationRow} {interlude : Interlude ρ}
    (hmeaning : Moods.meaning builtins owner new.mood interlude.database = .ok meaning)
    (hmood : meaning.mood? = some mood)
    (hhome : Conversations.find? owner conversation interlude.database = .ok (some home))
    {row : LineRow} {after : Database}
    (hwrite : interlude.database.write (fun rows => rows.insertLine (Conversations.newRow home
      meaning.row? mood.name (publicId lineTag interlude.value) new)) = (.ok row, after)) :
    let turn := interlude.turn builtins (.createLine owner conversation new)
    turn.answer interlude.database =
        .ok (.line ⟨row.publicId, new.animal, new.think, new.text, mood⟩) ∧
      turn.after interlude.database = after := by
  have htake := Conversations.createLine_apply builtins (drawFrom fun _ => interlude.value) owner
    conversation new ⟨interlude.database, [], 0⟩
  simp only [hmeaning, hmood, hhome, Conversations.insertLine_apply] at htake
  rw [Ids.insertUnique_of_write lineTag (fun id rows => rows.insertLine (Conversations.newRow home
    meaning.row? mood.name id new)) hwrite] at htake
  refine ⟨?_, ?_⟩
  · simp only [Turn.answer, Turn.take, Interlude.turn, Service.perform, Service.createLine,
      Operation.map_apply, Service.logged_answer, htake, Except.map]
  · simp only [Turn.after, Turn.take, Interlude.turn, Service.perform, Service.createLine,
      Operation.map_apply, Service.logged_database, htake]

section Line

variable {seen : Database} {before : Rows} (holds : seen.Holds catalogs before)
  {builtins : Catalog Mood} {owner : String}

include holds

/-- A name still means what it meant, if the row that it meant is alive; only the eyes and the
tongue can be others. -/
lemma meaning_again {db : Database} {rows : Rows} (holds' : db.Holds catalogs rows)
    (later : before.Later rows) {name : String} {meaning : Moods.Meaning} {mood : Mood}
    (hmeaning : Moods.meaning builtins owner name seen = .ok meaning)
    (hmood : meaning.mood? = some mood)
    (hlive : ∀ id, meaning.row?.map MoodRow.id = some id → ∃ row ∈ rows.moods, row.id = id) :
    ∃ meaning' eyes tongue, Moods.meaning builtins owner name db = .ok meaning' ∧
      meaning'.mood? = some { mood with eyes, tongue } ∧
      meaning'.row?.map MoodRow.id = meaning.row?.map MoodRow.id := by
  rw [Moods.meaning_of_rows holds'.1]
  obtain ⟨hbuiltin, rfl⟩ | ⟨hbuiltin, row, hfind, rfl, rfl⟩ :=
    Moods.meaning_cases holds.1 hmeaning hmood
  · exact ⟨.builtin mood, mood.eyes, mood.tongue, by rw [hbuiltin], rfl, rfl⟩
  · obtain ⟨row', hfind', hid, hname⟩ :=
      later.findMood?_eq holds.2 holds'.2 hfind (hlive row.id rfl)
    refine ⟨.owned row', row'.eyes, row'.tongue, by rw [hbuiltin, hfind'], ?_, congrArg some hid⟩
    simp only [Moods.Meaning.mood?, MoodRow.toMood, Mood.owned, hname]

variable {conversation : String} {new : NewLine} {meaning : Moods.Meaning} {mood : Mood}
  {home : ConversationRow} (hmeaning : Moods.meaning builtins owner new.mood seen = .ok meaning)
  (hmood : meaning.mood? = some mood)
  (hhome : before.findConversation? owner conversation = some home)

include hmeaning hmood hhome

lemma lineInserted_of_write {interlude : Interlude ρ} {rows : Rows}
    (holds' : interlude.database.Holds catalogs rows) (later : before.Later rows) {row : LineRow}
    {after : Database}
    (hwrite : interlude.database.write (fun rows => rows.insertLine (Conversations.newRow home
      meaning.row? mood.name (publicId lineTag interlude.value) new)) = (.ok row, after)) :
    LineInserted builtins owner conversation new seen interlude
      ⟨row.publicId, new.animal, new.think, new.text, mood⟩ after := by
  obtain ⟨found, rows', hfound, hinsert, hafter⟩ := Database.write_eq_ok hwrite
  obtain rfl : rows = found := Option.some_inj.mp (holds'.1.symm.trans hfound)
  obtain ⟨hlive, hrow, hrows'⟩ := Rows.insertLine_eq_ok hinsert
  -- the rows found in `seen` are still alive, so the uninterrupted call finds them again
  obtain ⟨hhomelive, hmoodlive⟩ := Rows.refersToLive_iff.mp hlive
  have hfind : Conversations.find? owner conversation interlude.database = .ok (some home) := by
    rw [Conversations.find?_of_rows hfound,
      later.findConversation?_eq holds.2 holds'.2 hhome hhomelive]
  obtain ⟨meaning', eyes, tongue, hmeaning', hmood', hsame⟩ :=
    meaning_again holds holds' later hmeaning hmood hmoodlive
  have hwrite' : interlude.database.write (fun rows => rows.insertLine (Conversations.newRow home
      meaning'.row? mood.name (publicId lineTag interlude.value) new)) = (.ok row, after) := by
    simpa only [Conversations.newRow, hsame] using hwrite
  obtain ⟨hanswer, hleaves⟩ := createLine_of_write hmeaning' hmood' hfind hwrite'
  refine ⟨⟨eyes, tongue, hanswer⟩, ?_, hleaves, rows, home, meaning.row?.map MoodRow.id, hfound,
    ?_, ?_⟩
  · simp only [Moods.get, hmeaning, bind, Except.bind, hmood]
    rfl
  · simp only [List.mem_cons, List.not_mem_nil, or_false, forall_eq_or_imp, forall_eq]
    refine ⟨⟨?_, ?_⟩, hfind, ?_⟩
    · rw [Conversations.find?_of_rows holds.1, hhome]
    · rw [hmeaning]
      rfl
    · rw [hmeaning']
      exact congrArg Except.ok hsame
  · rw [hafter, hrows', hrow]
    rfl

lemma insertLine_atomic {others : Others ρ} (act : others.Act catalogs) {world : World ρ}
    (hworld : world.database = seen) :
    others.Atomic Ids.maxAttempts (LineInserted builtins owner conversation new seen) world
      (Conversations.insertLine others.draw owner home meaning.row? mood new world) := by
  have hatomic := Ids.insertFrom_atomic others lineTag
    (fun id rows => rows.insertLine (Conversations.newRow home meaning.row? mood.name id new))
    (fun _ _ _ _ => Rows.insertLine_eq_error) Ids.maxAttempts 1 world
  rw [Conversations.insertLine_apply, Ids.insertUnique]
  rcases hinsert : Ids.insertFrom lineTag others.draw _ World.emit 1 Ids.maxAttempts world
    with ⟨error | row, after⟩
  · rw [hinsert] at hatomic
    rcases error with _ | (_ | _ | _)
    · exact hatomic
    · exact hatomic
    · -- the conversation is looked up once more, only to tell what is missing
      simp only
      rcases Conversations.find? owner home.publicId after.database with _ | found
      · exact hatomic
      · exact hatomic
    · exact hatomic
  · rw [hinsert] at hatomic
    obtain ⟨count, hcount, hwrite, hsource⟩ := hatomic
    have hreaches : Reaches catalogs seen (others (others.alone count world.shared)).database :=
      hworld ▸ (act.reaches count world.shared).trans (act _)
    obtain ⟨rows, holds', later⟩ := hreaches.keeps before holds
    exact ⟨count, hcount, lineInserted_of_write holds hmeaning hmood hhome holds' later hwrite,
      hsource⟩

end Line

lemma createLine_atomic {others : Others ρ} (act : others.Act catalogs) (builtins : Catalog Mood)
    (owner conversation : String) (new : NewLine) {world : World ρ} {before : Rows}
    (holds : world.database.Holds catalogs before) :
    others.Atomic Ids.maxAttempts
      (LineInserted builtins owner conversation new world.database) world
      (Conversations.createLine builtins others.draw owner conversation new world) := by
  rw [Conversations.createLine_apply, Conversations.find?_of_rows holds.1]
  cases hmeaning : Moods.meaning builtins owner new.mood world.database with
  | error error => exact .refused _ error
  | ok meaning =>
    simp only
    cases hmood : meaning.mood? with
    | none => exact .refused _ _
    | some mood =>
      simp only
      cases hhome : before.findConversation? owner conversation with
      | none => exact .refused _ _
      | some home => exact insertLine_atomic holds hmeaning hmood hhome act rfl

/-! ### Atomicity -/

/-- **Creations take effect at one moment.** On every database that callers can leave, and whatever
other callers do at each draw, creating a conversation or a line does at one of its draws what the
uninterrupted call does there, or it does nothing. -/
theorem creations_are_atomic {others : Others ρ} (act : others.Act catalogs)
    (builtins : Catalog Mood) {world : World ρ} (reachable : Reachable catalogs world.database) :
    let service : Service ρ := ⟨builtins, others.draw⟩
    (∀ owner heading, others.Atomic Ids.maxAttempts
      (ConversationInserted builtins owner heading) world
      (service.createConversation owner heading world)) ∧
    ∀ owner conversation new, others.Atomic Ids.maxAttempts
      (LineInserted builtins owner conversation new world.database) world
      (service.createLine owner conversation new world) := by
  intro service
  obtain ⟨rows, holds⟩ := reachable.holds
  exact ⟨fun owner heading => (create_atomic others builtins owner heading world).logged _,
    fun owner conversation new =>
      (createLine_atomic act builtins owner conversation new holds).logged _⟩

/-- Ann writes a line. At the first draw another of her calls takes the id that she draws, and at
the second one it paints the mood over. -/
theorem creations_are_atomic_in_a_race :
    let first : Turn :=
      ⟨builtinMoods, .createLine "ann" "cv_7" ⟨"cow", false, "calm", "first"⟩, fun _ => 7⟩
    let second : Turn := ⟨builtinMoods, .setMood "ann" "CALM" "uu" "  ", fun _ => 0⟩
    let others : Others ℕ := fun shared =>
      if shared.2 = 0 then ⟨7, (first.after shared.1, 1), []⟩
      else ⟨8, (second.after shared.1, 2), []⟩
    let service : Service ℕ := ⟨builtinMoods, others.draw⟩
    let mood : Turn := ⟨builtinMoods, .setMood "ann" "calm" "oo" "  ", fun _ => 0⟩
    let home : Turn := ⟨builtinMoods, .createConversation "ann" "notes", fun _ => 7⟩
    let world : World ℕ := ⟨home.after (mood.after .fresh), [], 0⟩
    others.Act {builtinMoods} ∧ Reachable {builtinMoods} world.database ∧
      (service.createLine "ann" "cv_7" ⟨"owl", true, "Calm", "moo"⟩ world).1 =
        .ok ⟨"ln_8", "owl", true, "moo", .owned "calm" "oo" "  "⟩ ∧
      (∀ owner heading, others.Atomic Ids.maxAttempts
        (ConversationInserted builtinMoods owner heading) world
        (service.createConversation owner heading world)) ∧
      ∀ owner conversation new, others.Atomic Ids.maxAttempts
        (LineInserted builtinMoods owner conversation new world.database) world
        (service.createLine owner conversation new world) := by
  intro first second others service mood home world
  have act : others.Act {builtinMoods} := by
    intro shared
    simp only [others]
    split
    · exact first.reaches (Set.mem_singleton _) shared.1
    · exact second.reaches (Set.mem_singleton _) shared.1
  have reachable : Reachable {builtinMoods} world.database :=
    (mood.reaches (Set.mem_singleton _) .fresh).trans
      (home.reaches (Set.mem_singleton _) (mood.after .fresh))
  exact ⟨act, reachable, by decide +kernel, creations_are_atomic act builtinMoods reachable⟩

end MoodStore
