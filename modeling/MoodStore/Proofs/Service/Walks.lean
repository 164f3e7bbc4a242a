import MoodStore.Proofs.Listing.Stability
import MoodStore.Proofs.Service.Listings

/-!
Walks through the service while others write.

An update keeps a mood its row and its name, a row id is never given twice, and a stored name is
never a built-in one. So an item that is not deleted is found again, and new rows come between the
rows that a walk has seen and the built-in moods.
-/

namespace MoodStore

open Listing

variable {ρ : Type}

/-! ### Listings in a changing store -/

/-- The moods of an owner, as they are listed. -/
def Service.moodFeed (service : Service ρ) (owner : String) : Feed (World ρ) ℕ Mood where
  catalog := service.builtins
  rows world := world.database.rows.elim [] fun rows => rows.numberedMoods owner
  live world name := world.database.rows.bind fun rows => rows.moodId? owner name
  ask world query := (service.listMoods owner query world).1

def Service.conversationFeed (service : Service ρ) (owner : String) :
    Feed (World ρ) ℕ Conversation where
  catalog := .empty
  rows world := world.database.rows.elim [] fun rows => rows.numberedConversations owner
  live world id := world.database.rows.bind fun rows => rows.conversationId? owner id
  ask world query := (service.listConversations owner query world).1

/-- Others, through services with these built-in moods, have made the one world the other. -/
def World.Becomes (builtins : Catalog Mood) (world later : World ρ) : Prop :=
  Reaches {builtins} world.database later.database

section Stable

variable {service : Service ρ} (owner : String)

lemma moodFeed_stable (distinct : service.builtins.Distinct) :
    (service.moodFeed owner).Stable (fun world => Reachable {service.builtins} world.database)
      (World.Becomes service.builtins) where
  moved hworld hbecomes := hworld.trans hbecomes
  builtin := distinct
  promises {world} hworld := by
    obtain ⟨rows, holds⟩ := hworld.holds
    refine ⟨Moods.tier world.database owner, ?_, fun query => ?_⟩
    · simpa [Service.moodFeed, holds.1] using Moods.tier_promises holds owner
    · simp [Service.moodFeed, Service.listMoods, Moods.list]
  own {world} hworld := by
    obtain ⟨rows, hrows, sound⟩ := hworld.holds
    intro numbered hnumbered
    simp only [Service.moodFeed, hrows, Option.elim_some, Rows.numberedMoods] at hnumbered
    obtain ⟨row, hrow, rfl⟩ := List.mem_map.mp hnumbered
    obtain ⟨hrow, howner⟩ := List.mem_filter.mp hrow
    -- with one catalog for all services no built-in mood shadows a row
    obtain ⟨catalog, rfl, hfree⟩ := sound.unreserved row hrow
    have hposition : service.builtins.position? row.name = none := by
      simpa [Catalog.contains] using hfree
    have hfind : rows.findMood? owner (foldCase row.name) = some row :=
      sound.findMood?_eq_some_iff.mpr ⟨hrow, by simpa using howner, sound.key row hrow⟩
    refine ⟨hposition, ?_⟩
    simp only [Service.moodFeed, hrows, Option.bind_some, Rows.moodId?]
    exact congrArg (Option.map MoodRow.id) hfind
  kept {world later} hworld hbecomes := by
    obtain ⟨rows, hrows, sound⟩ := hworld.holds
    obtain ⟨rows', ⟨hrows', -⟩, hlater⟩ := hbecomes.keeps rows ⟨hrows, sound⟩
    intro numbered hnumbered numbered' hnumbered' hid
    simp only [Service.moodFeed, hrows, hrows', Option.elim_some, Rows.numberedMoods]
      at hnumbered hnumbered'
    obtain ⟨row, hrow, rfl⟩ := List.mem_map.mp hnumbered
    obtain ⟨row', hrow', rfl⟩ := List.mem_map.mp hnumbered'
    -- a row that stays keeps its name, whatever is painted over
    have hfixed := hlater.moods.eq_of_id sound.moods (List.mem_of_mem_filter hrow)
      (List.mem_of_mem_filter hrow') hid
    simp only [MoodRow.fixed, Prod.mk.injEq] at hfixed
    exact hfixed.2.1

lemma conversationFeed_stable :
    (service.conversationFeed owner).Stable
      (fun world => Reachable {service.builtins} world.database)
      (World.Becomes service.builtins) where
  moved hworld hbecomes := hworld.trans hbecomes
  builtin := List.nodup_nil
  promises {world} hworld := by
    obtain ⟨rows, holds⟩ := hworld.holds
    refine ⟨Conversations.tier world.database owner, ?_, fun query => ?_⟩
    · simpa [Service.conversationFeed, holds.1] using Conversations.tier_promises holds owner
    · simp [Service.conversationFeed, Service.listConversations, Conversations.list]
  own {world} hworld := by
    obtain ⟨rows, hrows, sound⟩ := hworld.holds
    intro numbered hnumbered
    simp only [Service.conversationFeed, hrows, Option.elim_some, Rows.numberedConversations]
      at hnumbered
    obtain ⟨row, hrow, rfl⟩ := List.mem_map.mp hnumbered
    obtain ⟨hrow, howner⟩ := List.mem_filter.mp hrow
    have hfind : rows.findConversation? owner row.publicId = some row :=
      sound.findConversation?_eq_some_iff.mpr ⟨hrow, by simpa using howner, rfl⟩
    refine ⟨rfl, ?_⟩
    simp only [Service.conversationFeed, hrows, Option.bind_some, Rows.conversationId?]
    exact congrArg (Option.map ConversationRow.id) hfind
  kept {world later} hworld hbecomes := by
    obtain ⟨rows, hrows, sound⟩ := hworld.holds
    obtain ⟨rows', ⟨hrows', -⟩, hlater⟩ := hbecomes.keeps rows ⟨hrows, sound⟩
    intro numbered hnumbered numbered' hnumbered' hid
    simp only [Service.conversationFeed, hrows, hrows', Option.elim_some,
      Rows.numberedConversations] at hnumbered hnumbered'
    obtain ⟨row, hrow, rfl⟩ := List.mem_map.mp hnumbered
    obtain ⟨row', hrow', rfl⟩ := List.mem_map.mp hnumbered'
    have hsame : row' = row := hlater.conversations.eq_of_id sound.conversations
      (List.mem_of_mem_filter hrow) (List.mem_of_mem_filter hrow') hid
    rw [hsame]

end Stable

/-! ### Walks -/

/-- **Walks are stable while others write.** Whatever calls of any owners come between the pages of
a walk, as long as no item is deleted while it is the one to go on from, the places of the entries
that are shown only move on in the direction of the walk; and once nothing more follows, every entry
beyond the start that was there at every page has been shown. -/
theorem walks_are_stable (service : Service ρ) (distinct : service.builtins.Distinct)
    (owner : String) (walk : Walk) (hwalk : walk.backward = true → walk.from?.isSome = true) :
    (∀ visits, (service.moodFeed owner).Walked (World.Becomes service.builtins) walk walk.first
        visits →
      (∀ visit ∈ visits.head?, Reachable {service.builtins} visit.state.database) →
      ∃ places, (service.moodFeed owner).Steady (World.Becomes service.builtins) walk
        ((service.moodFeed owner).start? walk visits) visits places) ∧
    ∀ visits, (service.conversationFeed owner).Walked (World.Becomes service.builtins) walk
        walk.first visits →
      (∀ visit ∈ visits.head?, Reachable {service.builtins} visit.state.database) →
      ∃ places, (service.conversationFeed owner).Steady (World.Becomes service.builtins) walk
        ((service.conversationFeed owner).start? walk visits) visits places :=
  ⟨fun _ walked hgood => (moodFeed_stable owner distinct).steady hwalk walked hgood,
    fun _ walked hgood => (conversationFeed_stable owner).steady hwalk walked hgood⟩

/-- A walk of one mood a page; after its first page the mood shown is written over and the built-in
one comes last. -/
theorem walk_is_stable_over_a_changed_mood :
    let service : Service Unit := ⟨⟨[.builtin "dead" "xx" "U "]⟩, pure 0⟩
    let walk : Walk := ⟨1, none, false⟩
    let world : World Unit :=
      (service.perform (.setMood "ann" "calm" "oo" "  ") ⟨.fresh, [], ()⟩).2
    let later : World Unit := (service.perform (.setMood "ann" "CALM" "uu" "  ") world).2
    let visits : List (Visit (World Unit) Mood) :=
      [⟨world, ⟨[.owned "calm" "oo" "  "], true⟩⟩, ⟨later, ⟨[.builtin "dead" "xx" "U "], false⟩⟩]
    (service.moodFeed "ann").Walked (World.Becomes service.builtins) walk walk.first visits ∧
      ∃ places, (service.moodFeed "ann").Steady (World.Becomes service.builtins) walk
        ((service.moodFeed "ann").start? walk visits) visits places := by
  intro service walk world later visits
  have hreach : Reachable {service.builtins} world.database := by
    refine Reaches.call ?_ service (Set.mem_singleton _) (fun _ => .refl _) _
    exact .refl _
  have hlater : World.Becomes service.builtins world later := by
    refine Reaches.call ?_ service (Set.mem_singleton _) (fun _ => .refl _) _
    exact .refl _
  have hwalked : (service.moodFeed "ann").Walked (World.Becomes service.builtins) walk walk.first
      visits := by
    have onward : (service.moodFeed "ann").Onward (World.Becomes service.builtins)
        ⟨world, ⟨[.owned "calm" "oo" "  "], true⟩⟩ (.owned "calm" "oo" "  ") later :=
      ⟨hlater, rfl, .dynamic 1, by decide, by decide⟩
    exact .goOn (by decide) onward (.stop (by decide))
  have hstable := walks_are_stable service (by decide) "ann" walk (by decide)
  refine ⟨hwalked, hstable.1 visits hwalked fun visit hvisit => ?_⟩
  obtain rfl := Option.some_inj.mp hvisit
  exact hreach

end MoodStore
