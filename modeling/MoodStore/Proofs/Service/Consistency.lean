import Mathlib.Data.Set.Insert
import MoodStore.Proofs.Service.Reachable

/-!
The tables are consistent at all times.

Whatever callers do through services that share a store, also while others draw ids, no reference
dangles and no line refers to a mood of another owner. No constraint of the tables says the latter:
it holds because the owner of a row never changes and a row id is never given twice, so that a
reference that was looked up long ago is either still right or dead.
-/

namespace MoodStore

/-- The tables refer to each other and name their rows as they should. A line lies in a live
conversation, and its mood, unless built in, is a live row under the stored name that the owner of
the conversation has. -/
structure Rows.Consistent (rows : Rows) : Prop where
  mood_ids : (rows.moods.map MoodRow.id).Nodup
  conversation_ids : (rows.conversations.map ConversationRow.id).Nodup
  line_ids : (rows.lines.map LineRow.id).Nodup
  home : ∀ line ∈ rows.lines, ∃ row ∈ rows.conversations, row.id = line.conversation
  mood : ∀ line ∈ rows.lines, ∀ id, line.mood = some id → ∃ row ∈ rows.moods,
    row.id = id ∧ row.name = line.moodName ∧ ∃ conversation ∈ rows.conversations,
      conversation.id = line.conversation ∧ conversation.owner = row.owner
  conversation_names : (rows.conversations.map ConversationRow.publicId).Nodup
  line_names : (rows.lines.map LineRow.publicId).Nodup
  mood_keys : (rows.moods.map fun row => (row.owner, row.key)).Nodup
  key : ∀ row ∈ rows.moods, row.key = foldCase row.name

/-- No mood row has the key of one of these built-in moods. -/
def Rows.SparesNames (rows : Rows) (builtins : Catalog Mood) : Prop :=
  ∀ row ∈ rows.moods, ∀ mood ∈ builtins.entries, row.key ≠ foldCase mood.name

variable {catalogs : Set (Catalog Mood)} {rows : Rows}

namespace Rows.Sound

lemma consistent (h : rows.Sound catalogs) : rows.Consistent where
  mood_ids := h.moods.nodup_map
  conversation_ids := h.conversations.nodup_map
  line_ids := h.lines.nodup_map
  home := h.home
  mood := by
    intro line hline id hid
    obtain ⟨row, hrow, hrid, hname, howner⟩ := h.owned line hline id hid
    obtain ⟨conversation, hconversation, hhome⟩ := h.home line hline
    exact ⟨row, hrow, hrid, hname, conversation, hconversation, hhome,
      howner conversation hconversation hhome⟩
  conversation_names := h.conversation_distinct
  line_names := h.line_distinct
  mood_keys := h.mood_distinct
  key := h.key

lemma sparesNames {builtins : Catalog Mood} (h : rows.Sound catalogs)
    (hshared : catalogs ⊆ {builtins}) : rows.SparesNames builtins := by
  intro row hrow mood hmood heq
  obtain ⟨catalog, hcatalog, hfree⟩ := h.unreserved row hrow
  obtain rfl : catalog = builtins := hshared hcatalog
  rw [h.key row hrow] at heq
  rw [Catalog.contains, Catalog.position?, List.findIdx?_isSome] at hfree
  have hunnamed := List.any_eq_false.mp hfree mood hmood
  exact hunnamed (beq_iff_eq.mpr heq.symm)

end Rows.Sound

/-- **The tables are consistent at all times.** Whatever calls of any owners have been made on a new
store, through services with any built-in moods, and whatever other callers did at each draw of an
id, the tables are consistent; and where the services share one catalog, no mood has the key of a
built-in one. -/
theorem reachable_tables_are_consistent {db : Database} (reachable : Reachable catalogs db) :
    ∃ rows, db.rows = some rows ∧ rows.Consistent ∧
      ∀ builtins, catalogs ⊆ {builtins} → rows.SparesNames builtins := by
  obtain ⟨rows, hrows, sound⟩ := reachable.holds
  exact ⟨rows, hrows, sound.consistent, fun _ => sound.sparesNames⟩

theorem tables_are_consistent_after_a_race :
    let other : Service Unit := ⟨builtinMoods, pure 0⟩
    let ann : Service Unit := ⟨builtinMoods, fun world =>
      (7, (other.perform (.setMood "ann" "CALM" "uu" "  ") world).2)⟩
    let world : World Unit := ⟨.fresh, [], ()⟩
    let world := (ann.perform (.setMood "ann" "calm" "oo" "  ") world).2
    let world := (ann.perform (.createConversation "ann" "notes") world).2
    let world :=
      (ann.perform (.createLine "ann" "cv_7" ⟨"cow", false, "Calm", "moo"⟩) world).2
    Reachable {builtinMoods} world.database ∧
      world.database.rows.map (fun rows => rows.lines.map LineRow.mood) = some [some 1] ∧
      ∃ rows, world.database.rows = some rows ∧ rows.Consistent ∧
        ∀ builtins, {builtinMoods} ⊆ ({builtins} : Set (Catalog Mood)) →
          rows.SparesNames builtins := by
  intro other ann fresh first second third
  have others : ∀ world : World Unit,
      Reaches {builtinMoods} world.database (ann.draw world).2.database := fun world =>
    .call (.refl _) other (Set.mem_singleton _) (fun _ => .refl _) _
  have step : ∀ (world : World Unit) (call : Call), Reachable {builtinMoods} world.database →
      Reachable {builtinMoods} (ann.perform call world).2.database :=
    fun world call reachable => .call reachable ann (Set.mem_singleton _) others call
  have reachable : Reachable {builtinMoods} third.database :=
    step second _ (step first _ (step fresh _ (.refl _)))
  exact ⟨reachable, by decide +kernel, reachable_tables_are_consistent reachable⟩

end MoodStore
