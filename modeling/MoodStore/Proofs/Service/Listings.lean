import MoodStore.Proofs.Listing.Order
import MoodStore.Proofs.Service.Reachable

/-!
Listings over reachable stores.

The moods and the conversations of an owner are tables in the order of their row ids, so each tier
keeps its promises, and a page is a slice of one order: the owned rows, oldest first, then the
built-in entries.
-/

namespace MoodStore

open Listing

variable {ρ β α : Type} {catalogs : Set (Catalog Mood)}

/-! ### Tables as dynamic tiers -/

lemma beyond_eq_filter {id : β → ℕ} {table : List β} (hs : table.Pairwise fun a b => id a < id b)
    (display : β → α) (edge? : Option ℕ) (direction : Direction) (count : ℕ) :
    ((Moods.beyond id edge? direction table).take count).map display =
      (((direction.along (inOrder (table.map fun row => (id row, display row)))).filter
        fun row => direction.passes edge? row.1).take count).map Prod.snd := by
  have hpairs : (table.map fun row => (id row, display row)).Pairwise fun a b => a.1 < b.1 := by
    rw [List.pairwise_map]
    exact hs
  rw [inOrder_eq_self hpairs, ← map_along, List.filter_map, ← List.map_take, List.map_map]
  cases direction with
  | ascending => rfl
  | descending =>
    simp only [Moods.beyond, Direction.along, Direction.passes, Function.comp_def,
      List.filter_reverse]

/-- A tier that reads a table in the order of its row ids keeps its promises. -/
lemma promises_of_table {tier : DynamicTier (Except Error) ℕ α} {id : β → ℕ} {table : List β}
    (hs : table.Pairwise fun a b => id a < id b) (display : β → α) (is : String → β → Bool)
    (hresolve : ∀ name, tier.resolve name = .ok ((table.find? (is name)).map id))
    (hquery : ∀ edge? direction count, tier.queryFrom edge? direction count =
      .ok (((Moods.beyond id edge? direction table).take count).map display)) :
    Promises tier (table.map fun row => (id row, display row))
      (fun name => (table.find? (is name)).map id) where
  distinct := by
    rw [List.map_map, List.nodup_iff_pairwise_ne, List.pairwise_map]
    exact hs.imp fun hab => hab.ne
  resolve := hresolve
  live_mem := by
    intro name place hplace
    obtain ⟨row, hrow, rfl⟩ := Option.mem_map.mp hplace
    rw [List.map_map]
    exact List.mem_map_of_mem (List.mem_of_find?_eq_some hrow)
  queryFrom edge? direction count := by
    rw [hquery, beyond_eq_filter hs]

namespace Rows

/-- The moods of an owner with their row ids. -/
def numberedMoods (rows : Rows) (owner : String) : List (ℕ × Mood) :=
  (rows.moodsOf owner).map fun row => (row.id, row.toMood)

/-- The row id of the owner's mood with the key of a name. -/
def moodId? (rows : Rows) (owner name : String) : Option ℕ :=
  (rows.findMood? owner (foldCase name)).map MoodRow.id

/-- The conversations of an owner, without their lines, with their row ids. -/
def numberedConversations (rows : Rows) (owner : String) : List (ℕ × Conversation) :=
  (rows.conversationsOf owner).map fun row => (row.id, row.toConversation)

/-- The row id of the owner's conversation with a public id. -/
def conversationId? (rows : Rows) (owner publicId : String) : Option ℕ :=
  (rows.findConversation? owner publicId).map ConversationRow.id

lemma findMood?_eq_find? (rows : Rows) (owner key : String) :
    rows.findMood? owner key = (rows.moodsOf owner).find? fun row => row.key == key := by
  rw [findMood?, moodsOf, List.find?_filter]
  congr 1
  funext row
  simp only [isMood, Bool.decide_and, Bool.decide_eq_true]

lemma findConversation?_eq_find? (rows : Rows) (owner publicId : String) :
    rows.findConversation? owner publicId =
      (rows.conversationsOf owner).find? fun row => row.publicId == publicId := by
  rw [findConversation?, conversationsOf, List.find?_filter]
  congr 1
  funext row
  simp only [isConversation, Bool.decide_and, Bool.decide_eq_true]

lemma moodId?_eq (rows : Rows) (owner : String) :
    rows.moodId? owner = fun name =>
      ((rows.moodsOf owner).find? fun row => row.key == foldCase name).map MoodRow.id := by
  funext name
  rw [moodId?, findMood?_eq_find?]

lemma conversationId?_eq (rows : Rows) (owner : String) :
    rows.conversationId? owner = fun id =>
      ((rows.conversationsOf owner).find? fun row => row.publicId == id).map
        ConversationRow.id := by
  funext id
  rw [conversationId?, findConversation?_eq_find?]

end Rows

lemma Moods.tier_promises {db : Database} {rows : Rows} (holds : db.Holds catalogs rows)
    (owner : String) :
    Promises (Moods.tier db owner) (rows.numberedMoods owner) (rows.moodId? owner) := by
  have hs : (rows.moodsOf owner).Pairwise fun a b => a.id < b.id :=
    holds.2.moods.ascending.filter _
  rw [Rows.moodId?_eq]
  refine promises_of_table hs MoodRow.toMood (fun name row => row.key == foldCase name)
    (fun name => ?_) fun edge? direction count => ?_
  · simp only [Moods.tier, Database.rowsOrError_of_rows holds.1, ← Rows.findMood?_eq_find?]
    rfl
  · simp only [Moods.tier, Database.rowsOrError_of_rows holds.1]
    rfl

lemma Conversations.tier_promises {db : Database} {rows : Rows} (holds : db.Holds catalogs rows)
    (owner : String) :
    Promises (Conversations.tier db owner) (rows.numberedConversations owner)
      (rows.conversationId? owner) := by
  have hs : (rows.conversationsOf owner).Pairwise fun a b => a.id < b.id :=
    holds.2.conversations.ascending.filter _
  rw [Rows.conversationId?_eq]
  refine promises_of_table hs ConversationRow.toConversation (fun id row => row.publicId == id)
    (fun id => ?_) fun edge? direction count => ?_
  · simp only [Conversations.tier, Database.rowsOrError_of_rows holds.1,
      ← Rows.findConversation?_eq_find?]
    rfl
  · simp only [Conversations.tier, Database.rowsOrError_of_rows holds.1]
    rfl

/-! ### Pages over reachable stores -/

/-- **Every page is a slice of one order.** This holds of any rows that are asked through a tier
that keeps its promises, and, whatever calls came before, of the moods and of the conversations of
every owner. -/
theorem pages_are_slices :
    (∀ {π α : Type} [LinearOrder π] [Entry α] (catalog : Catalog α)
      (tier : DynamicTier (Except Error) π α) (rows : List (π × α)) (live : String → Option π),
      Promises tier rows live → Slices (list catalog tier) catalog rows live) ∧
    ∀ {ρ : Type} (catalogs : Set (Catalog Mood)) (service : Service ρ) (world : World ρ),
      Reachable catalogs world.database →
        ∃ rows, world.database.rows = some rows ∧ ∀ owner,
          Slices (fun query => (service.listMoods owner query world).1) service.builtins
            (rows.numberedMoods owner) (rows.moodId? owner) ∧
          Slices (fun query => (service.listConversations owner query world).1) Catalog.empty
            (rows.numberedConversations owner) (rows.conversationId? owner) := by
  refine ⟨fun catalog tier rows live promises => promises.slices catalog, ?_⟩
  intro ρ catalogs service world reachable
  obtain ⟨rows, holds⟩ := reachable.holds
  refine ⟨rows, holds.1, fun owner => ⟨?_, ?_⟩⟩
  · simpa [Service.listMoods, Moods.list] using
      (Moods.tier_promises holds owner).slices service.builtins
  · simpa [Service.listConversations, Conversations.list] using
      (Conversations.tier_promises holds owner).slices Catalog.empty

theorem pages_of_two_names_and_one_mood :
    (list ⟨["dead"]⟩ (.ofRows [(7, "blue"), (3, "amber")]) (.before "Dead" 1) :
      Except Error (Page String)) = .ok ⟨["blue"], true⟩ ∧
    let service : Service Unit := ⟨builtinMoods, pure 0⟩
    let world := (service.perform (.setMood "ann" "calm" "oo" "U ") ⟨.fresh, [], ()⟩).2
    Reachable {builtinMoods} world.database ∧
      ∃ rows, world.database.rows = some rows ∧ ∀ owner,
        Slices (fun query => (service.listMoods owner query world).1) builtinMoods
          (rows.numberedMoods owner) (rows.moodId? owner) := by
  refine ⟨?_, ?_⟩
  · have hdistinct : ([(7, "blue"), (3, "amber")].map Prod.fst).Nodup := by decide
    rw [(pages_are_slices.1 ⟨["dead"]⟩ _ _ _ (promises_ofRows hdistinct)).page]
    decide
  · intro service world
    have hreach : Reachable {builtinMoods} world.database := by
      refine Reaches.call ?_ service (Set.mem_singleton _) (fun _ => .refl _) _
      exact .refl _
    obtain ⟨rows, hrows, hslices⟩ := pages_are_slices.2 _ service world hreach
    exact ⟨hreach, rows, hrows, fun owner => (hslices owner).1⟩

end MoodStore
