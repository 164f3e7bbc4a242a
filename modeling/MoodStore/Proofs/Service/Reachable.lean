import MoodStore.Proofs.Catalog
import MoodStore.Proofs.Service.Effects
import MoodStore.Proofs.Store.Statements
import MoodStore.Store.Opening

/-!
The databases that the service can leave behind.

A database reaches another through calls of any owners, one after the other, on services that share
it. Whenever a call draws an id, other callers may act first, through calls that draw ids in turn.
Whatever is reached from a new store holds sound tables, and whatever is reached later is later.
-/

namespace MoodStore

variable {ρ : Type} {catalogs : Set (Catalog Mood)}

/-- The second database is what calls leave of the first. The services have catalogs of built-in
moods from a given set; all that a draw may do to the database is what other callers do to it. -/
inductive Reaches (catalogs : Set (Catalog Mood)) : Database → Database → Prop
  | refl (db : Database) : Reaches catalogs db db
  | call {ρ : Type} {db : Database} {world : World ρ} (before : Reaches catalogs db world.database)
      (service : Service ρ) (allowed : service.builtins ∈ catalogs)
      (others : ∀ world : World ρ,
        Reaches catalogs world.database (service.draw world).2.database)
      (call : Call) : Reaches catalogs db (service.perform call world).2.database

lemma Reaches.trans {a b c : Database} (h : Reaches catalogs a b) (h' : Reaches catalogs b c) :
    Reaches catalogs a c := by
  induction h' with
  | refl => exact h
  | call _ service allowed others call ih => exact .call (ih h) service allowed others call

/-- What is reached from a new store. -/
def Reachable (catalogs : Set (Catalog Mood)) (db : Database) : Prop :=
  Reaches catalogs .fresh db

/-- The database holds sound tables. -/
def Database.Holds (catalogs : Set (Catalog Mood)) (db : Database) (rows : Rows) : Prop :=
  db.rows = some rows ∧ rows.Sound catalogs

/-- If the first database holds sound tables, so does the second, and they are later. -/
def Keeps (catalogs : Set (Catalog Mood)) (before after : Database) : Prop :=
  ∀ rows, before.Holds catalogs rows → ∃ rows', after.Holds catalogs rows' ∧ rows.Later rows'

namespace Keeps

lemma refl (db : Database) : Keeps catalogs db db := fun rows h => ⟨rows, h, .refl rows⟩

lemma trans {a b c : Database} (h : Keeps catalogs a b) (h' : Keeps catalogs b c) :
    Keeps catalogs a c := by
  intro rows hrows
  obtain ⟨rows', hrows', later⟩ := h rows hrows
  obtain ⟨rows'', hrows'', later'⟩ := h' rows' hrows'
  exact ⟨rows'', hrows'', later.trans later'⟩

end Keeps

lemma Database.write_of_rows {α : Type} {db : Database} {rows : Rows} (h : db.rows = some rows)
    (statement : Rows → Except Failure α × Rows) :
    db.write statement = ((statement rows).1, { db with rows := some (statement rows).2 }) := by
  simp only [write, h]

lemma keeps_withRows (db : Database) {change : Rows → Rows}
    (h : ∀ rows : Rows, rows.Sound catalogs →
      (change rows).Sound catalogs ∧ rows.Later (change rows)) :
    Keeps catalogs db (db.withRows change) := by
  rintro rows ⟨hrows, sound⟩
  exact ⟨change rows, ⟨congrArg (Option.map change) hrows, (h rows sound).1⟩, (h rows sound).2⟩

lemma keeps_write {α : Type} (db : Database) {statement : Rows → Except Failure α × Rows}
    (h : ∀ rows : Rows, rows.Sound catalogs →
      (statement rows).2.Sound catalogs ∧ rows.Later (statement rows).2) :
    Keeps catalogs db (db.write statement).2 := by
  rw [Database.write_snd]
  exact keeps_withRows db h

/-! ### What a new line refers to -/

lemma Database.rowsOrError_of_rows {db : Database} {rows : Rows} (h : db.rows = some rows) :
    db.rowsOrError = .ok rows := by
  simp only [rowsOrError, read, h]
  rfl

lemma Moods.meaning_of_rows {db : Database} {rows : Rows} (h : db.rows = some rows)
    (builtins : Catalog Mood) (owner name : String) :
    Moods.meaning builtins owner name db = .ok (match builtins.get? name with
      | some mood => .builtin mood
      | none =>
        match rows.findMood? owner (foldCase name) with
        | some row => .owned row
        | none => .absent) := by
  unfold Moods.meaning
  cases builtins.get? name with
  | some mood => rfl
  | none =>
    rw [Database.rowsOrError_of_rows h]
    rfl

lemma Moods.meaning_cases {db : Database} {rows : Rows} (h : db.rows = some rows)
    {builtins : Catalog Mood} {owner name : String} {meaning : Moods.Meaning} {mood : Mood}
    (hmeaning : Moods.meaning builtins owner name db = .ok meaning)
    (hmood : meaning.mood? = some mood) :
    (builtins.get? name = some mood ∧ meaning = .builtin mood) ∨
      builtins.get? name = none ∧ ∃ row, rows.findMood? owner (foldCase name) = some row ∧
        meaning = .owned row ∧ row.toMood = mood := by
  rw [Moods.meaning_of_rows h, Except.ok.injEq] at hmeaning
  cases hbuiltin : builtins.get? name with
  | some builtin =>
    rw [hbuiltin] at hmeaning
    subst hmeaning
    obtain rfl : builtin = mood := Option.some_inj.mp hmood
    exact .inl ⟨rfl, rfl⟩
  | none =>
    rw [hbuiltin] at hmeaning
    cases hfind : rows.findMood? owner (foldCase name) with
    | none =>
      rw [hfind] at hmeaning
      subst hmeaning
      cases hmood
    | some row =>
      rw [hfind] at hmeaning
      subst hmeaning
      exact .inr ⟨rfl, row, rfl, rfl, Option.some_inj.mp hmood⟩

lemma Conversations.find?_of_rows {db : Database} {rows : Rows} (h : db.rows = some rows)
    (owner publicId : String) :
    Conversations.find? owner publicId db = .ok (rows.findConversation? owner publicId) := by
  unfold Conversations.find?
  rw [Database.rowsOrError_of_rows h]
  rfl

/-- Whatever has happened since the references of a line were looked up, they are right as long as
they are alive. -/
lemma Rows.Later.grounded {seen rows : Rows} (later : seen.Later rows) (sound : seen.Sound catalogs)
    {builtins : Catalog Mood} (allowed : builtins ∈ catalogs) {db : Database}
    (hdb : db.rows = some seen) {owner name : String} {meaning : Moods.Meaning}
    (hmeaning : Moods.meaning builtins owner name db = .ok meaning) {mood : Mood}
    (hmood : meaning.mood? = some mood) {conversation : ConversationRow}
    (hconversation : conversation ∈ seen.conversations) (howner : conversation.owner = owner)
    (publicId : String) (line : NewLine) :
    rows.Grounded catalogs
      (Conversations.newRow conversation meaning.row? mood.name publicId line) := by
  obtain ⟨hbuiltin, rfl⟩ | ⟨-, found, hfind, rfl, rfl⟩ := Moods.meaning_cases hdb hmeaning hmood
  · refine ⟨fun id hid => ?_, fun _ => ⟨builtins, allowed, Catalog.contains_of_get? hbuiltin⟩⟩
    simp [Conversations.newRow, Moods.Meaning.row?] at hid
  · obtain ⟨hfound, hfowner, -⟩ := sound.findMood?_eq_some_iff.mp hfind
    refine ⟨fun id hid row hrow hrid => ?_, fun hnone => ?_⟩
    · obtain rfl : found.id = id := by
        simpa [Conversations.newRow, Moods.Meaning.row?] using hid
      -- a row that stays keeps its name and its owner
      have hfixed := later.moods.eq_of_id sound.moods hfound hrow hrid
      simp only [MoodRow.fixed, Prod.mk.injEq] at hfixed
      refine ⟨hfixed.2.1, fun other hother hhome => ?_⟩
      have hsame : other = conversation :=
        later.conversations.eq_of_id sound.conversations hconversation hother hhome
      rw [hsame, howner, ← hfowner, hfixed.1]
    · simp [Conversations.newRow, Moods.Meaning.row?] at hnone

/-! ### One call -/

section Call

variable {service : Service ρ} (allowed : service.builtins ∈ catalogs)
  (others : ∀ world : World ρ, Keeps catalogs world.database (service.draw world).2.database)

include others

lemma create_keeps (owner heading : String) (world : World ρ) :
    Keeps catalogs world.database
      (Conversations.create service.draw owner heading world).2.database := by
  rw [Conversations.create_snd]
  refine Ids.insertFrom_keeps (P := fun w => Keeps catalogs world.database w.database)
    (fun w hw => hw.trans (others w)) (fun value w hw => hw.trans ?_) ?_ _ _ _ (.refl _)
  · exact keeps_write _ fun rows sound =>
      sound.insertConversation (publicId conversationTag value) owner heading
  · intro _ _ hw
    exact hw

include allowed

lemma createLine_keeps (owner conversation : String) (line : NewLine) (world : World ρ) :
    Keeps catalogs world.database (Conversations.createLine service.builtins service.draw owner
      conversation line world).2.database := by
  rintro seen ⟨hseen, sound⟩
  rw [Conversations.createLine_apply]
  cases hmeaning : Moods.meaning service.builtins owner line.mood world.database with
  | error => exact Keeps.refl _ seen ⟨hseen, sound⟩
  | ok meaning =>
    simp only
    cases hmood : meaning.mood? with
    | none => exact Keeps.refl _ seen ⟨hseen, sound⟩
    | some mood =>
      simp only
      rw [Conversations.find?_of_rows hseen]
      cases hfind : seen.findConversation? owner conversation with
      | none => exact Keeps.refl _ seen ⟨hseen, sound⟩
      | some row =>
        simp only
        obtain ⟨hrow, howner, -⟩ := sound.findConversation?_eq_some_iff.mp hfind
        rw [Conversations.insertLine_snd]
        -- at each attempt the tables are sound, and later than those the references were found in
        refine Ids.insertFrom_keeps
          (P := fun w : World ρ => ∃ rows, w.database.Holds catalogs rows ∧ seen.Later rows)
          ?_ ?_ ?_ _ _ _ ⟨seen, ⟨hseen, sound⟩, .refl seen⟩
        · rintro w ⟨rows, hrows, later⟩
          obtain ⟨rows', hrows', later'⟩ := others w rows hrows
          exact ⟨rows', hrows', later.trans later'⟩
        · rintro value w ⟨rows, ⟨hrows, hsound⟩, later⟩
          have hline := hsound.insertLine (later.grounded sound allowed hseen hmeaning hmood hrow
            howner (publicId lineTag value) line)
          simp only [World.execute, Database.write_of_rows hrows]
          exact ⟨_, ⟨rfl, hline.1⟩, later.trans hline.2⟩
        · intro _ _ hw
          exact hw

omit others in
lemma Rows.Sound.effect {rows : Rows} (sound : rows.Sound catalogs) (call : Call) :
    (call.effect service.builtins rows).Sound catalogs ∧
      rows.Later (call.effect service.builtins rows) := by
  cases call with
  | setMood owner name eyes tongue =>
    simp only [Call.effect]
    cases hname : service.builtins.contains name with
    | true => exact ⟨sound, .refl rows⟩
    | false => exact sound.writeMood allowed hname owner eyes tongue
  | deleteMood owner name =>
    simp only [Call.effect]
    cases service.builtins.contains name with
    | true => exact ⟨sound, .refl rows⟩
    | false => exact sound.deleteMood owner (foldCase name)
  | deleteConversation owner id => exact sound.deleteConversation owner id
  | deleteLine owner conversation id => exact sound.deleteLine owner conversation id
  | _ => exact ⟨sound, .refl rows⟩

/-- Whatever others do while it draws ids, a call keeps the tables sound. -/
lemma perform_keeps (call : Call) (world : World ρ) :
    Keeps catalogs world.database (service.perform call world).2.database := by
  rcases service.perform_database call world with
    ⟨owner, heading, h⟩ | ⟨owner, conversation, line, h⟩ | h <;> rw [h]
  · exact create_keeps others owner heading world
  · exact createLine_keeps allowed others owner conversation line world
  · exact keeps_withRows _ fun rows sound => sound.effect allowed call

end Call

/-! ### Runs -/

/-- **Runs keep the tables sound.** Whatever calls leave of sound tables is sound and later. -/
theorem Reaches.keeps {before after : Database} (reaches : Reaches catalogs before after) :
    Keeps catalogs before after := by
  induction reaches with
  | refl db => exact .refl db
  | call _ service allowed _ call ihbefore ihothers =>
    exact ihbefore.trans (perform_keeps allowed ihothers call _)

lemma holds_fresh : Database.fresh.Holds catalogs .empty := ⟨rfl, Rows.sound_empty⟩

theorem Reachable.holds {db : Database} (reachable : Reachable catalogs db) :
    ∃ rows, db.Holds catalogs rows := by
  obtain ⟨rows, hrows, -⟩ := reachable.keeps .empty holds_fresh
  exact ⟨rows, hrows⟩

end MoodStore
