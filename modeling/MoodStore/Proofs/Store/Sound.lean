import Mathlib.Data.List.Nodup
import Mathlib.Data.Set.Basic
import MoodStore.Store.Rows

/-!
What holds of the tables at all times, and what of them can never change.

Row ids ascend in every table and stay within its counter; no two moods of an owner share a key, and
no two conversations or lines a public id; a line lies in a live conversation and refers only to
moods of the owner of that conversation. A row keeps what it was created with: its owner and its
names, and, as row ids are never given twice, whatever has the row id of an old row is that row.
Every statement preserves both.
-/

namespace MoodStore

/-! ### Tables numbered by a counter -/

/-- The row ids of a table ascend and lie within its counter. -/
structure Numbered {α : Type} (id : α → ℕ) (last : ℕ) (table : List α) : Prop where
  ascending : table.Pairwise fun a b => id a < id b
  bounded : ∀ row ∈ table, id row ≤ last

/-- What a later table holds under the ids that were given by then, it held then, as far as the view
shows it. -/
structure Aged {α β : Type} (id : α → ℕ) (view : α → β) (last last' : ℕ)
    (table table' : List α) : Prop where
  counter : last ≤ last'
  kept : ∀ row' ∈ table', id row' ≤ last → ∃ row ∈ table, id row = id row' ∧ view row = view row'

section Tables

variable {α β : Type} {id : α → ℕ} {view : α → β} {last last' last'' : ℕ}
  {table table' table'' : List α}

namespace Numbered

lemma nil : Numbered id last [] := ⟨by simp, by simp⟩

lemma append (h : Numbered id last table) {row : α} (hrow : id row = last + 1) :
    Numbered id (last + 1) (table ++ [row]) where
  ascending := by
    rw [List.pairwise_append]
    refine ⟨h.ascending, by simp, fun a ha b hb => ?_⟩
    have := h.bounded a ha
    rw [List.mem_singleton] at hb
    subst hb
    omega
  bounded := by
    intro a ha
    rcases List.mem_append.mp ha with ha | ha
    · exact (h.bounded a ha).trans (by omega)
    · rw [List.mem_singleton] at ha
      subst ha
      omega

lemma filter (h : Numbered id last table) (p : α → Bool) : Numbered id last (table.filter p) where
  ascending := h.ascending.filter p
  bounded row hrow := h.bounded row (List.mem_of_mem_filter hrow)

lemma map (h : Numbered id last table) {f : α → α} (hf : ∀ row ∈ table, id (f row) = id row) :
    Numbered id last (table.map f) where
  ascending := by
    rw [List.pairwise_map]
    exact h.ascending.imp_of_mem fun ha hb hab => by rw [hf _ ha, hf _ hb]; exact hab
  bounded := by
    intro row hrow
    obtain ⟨old, hold, rfl⟩ := List.mem_map.mp hrow
    rw [hf _ hold]
    exact h.bounded old hold

lemma nodup_map (h : Numbered id last table) : (table.map id).Nodup := by
  rw [List.nodup_iff_pairwise_ne, List.pairwise_map]
  exact h.ascending.imp fun hab => hab.ne

lemma nodup (h : Numbered id last table) : table.Nodup := h.nodup_map.of_map id

lemma eq_of_id (h : Numbered id last table) {a b : α} (ha : a ∈ table) (hb : b ∈ table)
    (hid : id a = id b) : a = b :=
  List.inj_on_of_nodup_map h.nodup_map ha hb hid

end Numbered

namespace Aged

lemma refl : Aged id view last last table table :=
  ⟨le_rfl, fun row hrow _ => ⟨row, hrow, rfl, rfl⟩⟩

lemma trans (h : Aged id view last last' table table')
    (h' : Aged id view last' last'' table' table'') :
    Aged id view last last'' table table'' where
  counter := h.counter.trans h'.counter
  kept := by
    intro row'' hrow'' hid
    obtain ⟨row', hrow', hid', hview'⟩ := h'.kept row'' hrow'' (hid.trans h.counter)
    obtain ⟨row, hrow, hid'', hview⟩ := h.kept row' hrow' (hid'.trans_le hid)
    exact ⟨row, hrow, hid''.trans hid', hview.trans hview'⟩

lemma eq_of_id (h : Aged id view last last' table table') (numbered : Numbered id last table)
    {row row' : α} (hrow : row ∈ table) (hrow' : row' ∈ table') (hid : id row' = id row) :
    view row' = view row := by
  obtain ⟨old, hold, holdid, hview⟩ := h.kept row' hrow' (hid.trans_le (numbered.bounded row hrow))
  obtain rfl := numbered.eq_of_id hold hrow (holdid.trans hid)
  exact hview.symm

lemma append {row : α} (hrow : id row = last + 1) :
    Aged id view last (last + 1) table (table ++ [row]) where
  counter := by omega
  kept := by
    intro row' hrow' hid
    rcases List.mem_append.mp hrow' with h | h
    · exact ⟨row', h, rfl, rfl⟩
    · rw [List.mem_singleton] at h
      subst h
      omega

lemma filter (p : α → Bool) : Aged id view last last table (table.filter p) :=
  ⟨le_rfl, fun row hrow _ => ⟨row, List.mem_of_mem_filter hrow, rfl, rfl⟩⟩

lemma map {f : α → α} (hid : ∀ row ∈ table, id (f row) = id row)
    (hview : ∀ row ∈ table, view (f row) = view row) :
    Aged id view last last table (table.map f) where
  counter := le_rfl
  kept := by
    intro row' hrow' _
    obtain ⟨row, hrow, rfl⟩ := List.mem_map.mp hrow'
    exact ⟨row, hrow, (hid row hrow).symm, (hview row hrow).symm⟩

end Aged

end Tables

/-! ### What holds of the tables -/

/-- What a mood row is created with and keeps. -/
def MoodRow.fixed (row : MoodRow) : String × String × String := (row.owner, row.name, row.key)

namespace Rows

/-- Lines and moods that were written through services with these catalogs of built-in moods. -/
structure Sound (catalogs : Set (Catalog Mood)) (rows : Rows) : Prop where
  moods : Numbered MoodRow.id rows.lastMood rows.moods
  conversations : Numbered ConversationRow.id rows.lastConversation rows.conversations
  lines : Numbered LineRow.id rows.lastLine rows.lines
  key : ∀ row ∈ rows.moods, row.key = foldCase row.name
  unreserved : ∀ row ∈ rows.moods, ∃ catalog ∈ catalogs, catalog.contains row.name = false
  mood_distinct : (rows.moods.map fun row => (row.owner, row.key)).Nodup
  conversation_distinct : (rows.conversations.map ConversationRow.publicId).Nodup
  line_distinct : (rows.lines.map LineRow.publicId).Nodup
  home : ∀ line ∈ rows.lines, ∃ row ∈ rows.conversations, row.id = line.conversation
  owned : ∀ line ∈ rows.lines, ∀ id, line.mood = some id → ∃ row ∈ rows.moods,
    row.id = id ∧ row.name = line.moodName ∧
      ∀ conversation ∈ rows.conversations, conversation.id = line.conversation →
        conversation.owner = row.owner
  builtin : ∀ line ∈ rows.lines, line.mood = none →
    ∃ catalog ∈ catalogs, catalog.contains line.moodName = true

/-- The tables at a later time: what has an id that was given before is what it was. -/
structure Later (before after : Rows) : Prop where
  moods : Aged MoodRow.id MoodRow.fixed before.lastMood after.lastMood before.moods after.moods
  conversations : Aged ConversationRow.id (fun row => row) before.lastConversation
    after.lastConversation before.conversations after.conversations
  lines : Aged LineRow.id (fun line => line) before.lastLine after.lastLine before.lines after.lines

lemma Later.refl (rows : Rows) : Later rows rows := ⟨.refl, .refl, .refl⟩

lemma Later.trans {a b c : Rows} (h : Later a b) (h' : Later b c) : Later a c :=
  ⟨h.moods.trans h'.moods, h.conversations.trans h'.conversations, h.lines.trans h'.lines⟩

variable {catalogs : Set (Catalog Mood)} {rows : Rows}

lemma Sound.mono {catalogs' : Set (Catalog Mood)} (h : Sound catalogs rows)
    (hsubset : catalogs ⊆ catalogs') : Sound catalogs' rows :=
  { h with
    unreserved := fun row hrow =>
      (h.unreserved row hrow).imp fun _ => And.imp_left fun hcatalog => hsubset hcatalog
    builtin := fun line hline hnone =>
      (h.builtin line hline hnone).imp fun _ => And.imp_left fun hcatalog => hsubset hcatalog }

lemma sound_empty : Sound catalogs empty := by
  constructor <;> first | exact .nil | simp [empty]

end Rows

end MoodStore
