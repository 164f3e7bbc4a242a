import MoodStore.Proofs.Listing.Parameters
import MoodStore.Proofs.Service.ShadowedWalks

/-!
Paging through the service by request parameters.

An id of a conversation begins with its tag, so a client always goes on behind it. A mood may have
any name, also the empty one; as a parameter that is no cursor, and the client comes back to its
first page.
-/

namespace MoodStore

open Listing

variable {ρ α : Type} {catalogs : Set (Catalog Mood)}

/-! ### Ids of conversations -/

/-- Every conversation has the id of a draw. -/
def Rows.Drawn (rows : Rows) : Prop :=
  ∀ row ∈ rows.conversations, ∃ draw, row.publicId = publicId conversationTag draw

def Database.Drawn (db : Database) : Prop := ∀ rows ∈ db.rows, rows.Drawn

namespace Rows

variable {rows : Rows}

@[simp] lemma writeMood_conversations (owner name eyes tongue : String) :
    (rows.writeMood owner name eyes tongue).2.conversations = rows.conversations := by
  simp only [writeMood]
  split <;> rfl

@[simp] lemma deleteMood_conversations (owner key : String) :
    (rows.deleteMood owner key).2.conversations = rows.conversations := by
  simp only [deleteMood]
  split <;> rfl

@[simp] lemma insertLine_conversations (line : LineRow) :
    (rows.insertLine line).2.conversations = rows.conversations := by
  simp only [insertLine]
  split
  · rfl
  · split <;> rfl

lemma Drawn.of_subset {rows' : Rows} (drawn : rows.Drawn)
    (h : rows'.conversations ⊆ rows.conversations) : rows'.Drawn :=
  fun row hrow => drawn row (h hrow)

lemma Drawn.insertConversation (drawn : rows.Drawn) (draw : UInt64) (owner heading : String) :
    (rows.insertConversation (publicId conversationTag draw) owner heading).2.Drawn := by
  unfold Rows.insertConversation
  split
  · exact drawn
  · intro row hrow
    rcases List.mem_append.mp hrow with hold | hnew
    · exact drawn row hold
    · rw [List.mem_singleton.mp hnew]
      exact ⟨draw, rfl⟩

lemma Drawn.insertLine (drawn : rows.Drawn) (line : LineRow) : (rows.insertLine line).2.Drawn :=
  drawn.of_subset (by simp)

lemma Drawn.effect {builtins : Catalog Mood} (drawn : rows.Drawn) (call : Call) :
    (call.effect builtins rows).Drawn := by
  refine drawn.of_subset ?_
  cases call with
  | setMood owner name eyes tongue =>
    simp only [Call.effect]
    split <;> simp
  | deleteMood owner name =>
    simp only [Call.effect]
    split <;> simp
  | deleteConversation owner id => exact List.filter_subset_self _
  | _ => exact List.Subset.refl _

end Rows

namespace Database.Drawn

variable {db : Database}

lemma withRows (drawn : db.Drawn) {change : Rows → Rows}
    (h : ∀ rows : Rows, rows.Drawn → (change rows).Drawn) : (db.withRows change).Drawn := by
  intro _ hchanged
  obtain ⟨rows, hrows, rfl⟩ := Option.mem_map.mp hchanged
  exact h rows (drawn rows hrows)

lemma write (drawn : db.Drawn) {statement : Rows → Except Failure α × Rows}
    (h : ∀ rows : Rows, rows.Drawn → (statement rows).2.Drawn) : (db.write statement).2.Drawn := by
  rw [write_snd]
  exact drawn.withRows h

end Database.Drawn

section Call

variable {service : Service ρ}
  (others : ∀ world : World ρ, world.database.Drawn → (service.draw world).2.database.Drawn)

include others

lemma create_drawn (owner heading : String) {world : World ρ} (drawn : world.database.Drawn) :
    (Conversations.create service.draw owner heading world).2.database.Drawn := by
  rw [Conversations.create_snd]
  refine Ids.insertFrom_keeps (P := fun w : World ρ => w.database.Drawn) others
    (fun value w hw => hw.write fun rows drawn => ?_) (fun _ _ hw => hw) _ _ _ drawn
  exact drawn.insertConversation value owner heading

lemma createLine_drawn (owner conversation : String) (line : NewLine) {world : World ρ}
    (drawn : world.database.Drawn) :
    (Conversations.createLine service.builtins service.draw owner conversation line
      world).2.database.Drawn := by
  rw [Conversations.createLine_apply]
  rcases Moods.meaning service.builtins owner line.mood world.database with error | meaning
  · exact drawn
  simp only
  cases meaning.mood? with
  | none => exact drawn
  | some mood =>
    simp only
    rcases Conversations.find? owner conversation world.database with error | _ | row
    · exact drawn
    · exact drawn
    · simp only
      rw [Conversations.insertLine_snd]
      refine Ids.insertFrom_keeps (P := fun w : World ρ => w.database.Drawn) others
        (fun value w hw => hw.write fun rows drawn => ?_) (fun _ _ hw => hw) _ _ _ drawn
      exact drawn.insertLine _

lemma perform_drawn (call : Call) {world : World ρ} (drawn : world.database.Drawn) :
    (service.perform call world).2.database.Drawn := by
  rcases service.perform_database call world with
    ⟨owner, heading, h⟩ | ⟨owner, conversation, line, h⟩ | h <;> rw [h]
  · exact create_drawn others owner heading drawn
  · exact createLine_drawn others owner conversation line drawn
  · exact drawn.withRows fun rows drawn => drawn.effect call

end Call

theorem Reaches.drawn {before after : Database} (reaches : Reaches catalogs before after)
    (drawn : before.Drawn) : after.Drawn := by
  induction reaches with
  | refl db => exact drawn
  | call _ service _ _ call ihbefore ihothers =>
    exact perform_drawn (fun world => ihothers world) call (ihbefore drawn)

lemma publicId_conversation_ne_empty (draw : UInt64) : publicId conversationTag draw ≠ "" := by
  intro hempty
  have hlist := congrArg String.toList hempty
  rw [publicId, String.toList_append] at hlist
  exact absurd (List.append_eq_nil_iff.mp hlist).1 (by decide)

/-! ### Clients -/

/-- The entries of a feed, in order. -/
def Listing.Feed.order {σ π : Type} [LinearOrder π] (feed : Feed σ π α) (state : σ) : List α :=
  wholeOrder feed.catalog (feed.rows state)

lemma Lists.resumes [Entry α] {feed : Feed (World ρ) ℕ α} {list : Query → Operation ρ (Page α)}
    {world : World ρ} (lists : Lists feed list world)
    (unshadowed : ∀ row ∈ feed.rows world, feed.catalog.position? (Entry.id row.2) = none)
    {limit? : Option ℕ} (hlimit : 0 < limit?.getD Query.defaultLimit)
    (hmax : limit?.getD Query.defaultLimit ≤ Query.maxLimit) :
    Resumes (fun query => (list query).run) world (feed.order world) limit? :=
  Listing.resumes (lists.settled.indexOf?_own unshadowed) (fun _ _ => lists.apply_eq)
    (fun query _ h => (lists.answers query).symm.trans h) hlimit hmax

lemma Reaches.mono {catalogs' : Set (Catalog Mood)} (hsubset : catalogs ⊆ catalogs')
    {before after : Database} (reaches : Reaches catalogs before after) :
    Reaches catalogs' before after := by
  induction reaches with
  | refl db => exact .refl db
  | call _ service allowed _ call ihbefore ihothers =>
    exact .call ihbefore service (hsubset allowed) ihothers call

lemma Database.Drawn.id_ne_empty {service : Service ρ} {world : World ρ}
    (drawn : world.database.Drawn) {owner : String} {conversation : Conversation}
    (h : conversation ∈ (service.conversationFeed owner).order world) :
    Entry.id conversation ≠ "" := by
  simp only [Feed.order, Service.conversationFeed, wholeOrder, Catalog.empty, List.append_nil] at h
  obtain ⟨numbered, hnumbered, rfl⟩ := List.mem_map.mp h
  have hmem := (inOrder_perm _).mem_iff.mp hnumbered
  cases hrows : world.database.rows with
  | none => simp [hrows] at hmem
  | some rows =>
    rw [hrows] at hmem
    obtain ⟨row, hrow, rfl⟩ := List.mem_map.mp hmem
    obtain ⟨draw, hdraw⟩ := drawn rows hrows row (List.mem_of_mem_filter hrow)
    change row.publicId ≠ ""
    rw [hdraw]
    exact publicId_conversation_ne_empty draw

/-- **Last cursors can be handed back, but for the empty name.** Whatever calls of any owners have
been made on a new store, a request for at most a hundred entries accepts every last cursor as a
parameter. A client of the conversations of an owner always goes on behind the last item of its
page, sees every entry once and ends. So does a client of the moods, where all services have the
same built-in moods of distinct names, unless a page that has more ends with the mood whose name is
empty: then the client is back at its first page, and never ends. -/
theorem last_cursors_page_on {service : Service ρ} {world : World ρ}
    (reachable : Reachable catalogs world.database) (owner : String) {limit? : Option ℕ}
    (hlimit : 0 < limit?.getD Query.defaultLimit)
    (hmax : limit?.getD Query.defaultLimit ≤ Query.maxLimit) :
    Resumes (fun query => (service.listConversations owner query).run) world
        ((service.conversationFeed owner).order world) limit? ∧
      (∀ conversation ∈ (service.conversationFeed owner).order world,
        Entry.id conversation ≠ "") ∧
      (catalogs ⊆ {service.builtins} → service.builtins.Distinct →
        Resumes (fun query => (service.listMoods owner query).run) world
          ((service.moodFeed owner).order world) limit?) := by
  obtain ⟨rows, holds⟩ := reachable.holds
  have drawn : world.database.Drawn := reachable.drawn (by rintro _ ⟨⟩ row hrow; cases hrow)
  refine ⟨(holds.lists_conversations owner).resumes (fun _ _ => rfl) hlimit hmax,
    fun conversation => drawn.id_ne_empty, fun hshared distinct => ?_⟩
  exact (holds.lists_moods distinct owner).resumes
    (fun row hrow => ((moodFeed_stable owner distinct).own (reachable.mono hshared) row hrow).1)
    hlimit hmax

/-! ### A mood without a name -/

def releasedService : Service Unit := ⟨builtinMoods, pure 0⟩

/-- A store in which Ann has one mood, whose name is empty. -/
def unnamedStore : World Unit :=
  (releasedService.perform (.setMood "ann" "" "oo" "U ") ⟨.fresh, [], ()⟩).2

lemma unnamedStore_reachable : Reachable {builtinMoods} unnamedStore.database := by
  refine Reaches.call ?_ releasedService (Set.mem_singleton _) (fun _ => .refl _) _
  exact .refl _

theorem client_passes_unnamed_mood :
    Reachable {builtinMoods} unnamedStore.database ∧ 0 < (some 2).getD Query.defaultLimit ∧
      (some 2).getD Query.defaultLimit ≤ Query.maxLimit ∧
      Resumes (fun query => (releasedService.listMoods "ann" query).run) unnamedStore
        ((releasedService.moodFeed "ann").order unnamedStore) (some 2) ∧
      ∃ pages, (follow (fun query => (releasedService.listMoods "ann" query).run) (.resumed 2) 4
          (.first 2) unnamedStore).1 = (pages, none) ∧
        pages.flatMap Page.items = .owned "" "oo" "U " :: builtinMoods.entries := by
  have hlimit : 0 < (some 2).getD Query.defaultLimit := by decide
  have hmax : (some 2).getD Query.defaultLimit ≤ Query.maxLimit := by decide
  obtain ⟨-, -, resumes⟩ := @last_cursors_page_on Unit {builtinMoods} releasedService unnamedStore
    unnamedStore_reachable "ann" (some 2) hlimit hmax
  refine ⟨unnamedStore_reachable, hlimit, hmax, resumes subset_rfl (by decide +kernel), ?_⟩
  exact ⟨_, rfl, by decide +kernel⟩

/-- In pages of one, the first page ends with the mood without a name. The first built-in mood
follows it, but handed back as a parameter its name leads to the first page again, for ever. -/
theorem client_goes_round_before_unnamed_mood :
    let list := fun query => (releasedService.listMoods "ann" query).run
    let page : Page Mood := ⟨[.owned "" "oo" "U "], true⟩
    Reachable {builtinMoods} unnamedStore.database ∧ builtinMoods.Distinct ∧
      (releasedService.moodFeed "ann").order unnamedStore =
        .owned "" "oo" "U " :: builtinMoods.entries ∧
      Query.ofParams none none (some 1) = .ok (.first 1) ∧
      list (.first 1) unnamedStore = (.ok page, unnamedStore) ∧ page.lastCursor = some "" ∧
      Query.ofParams page.lastCursor none (some 1) = .ok (.first 1) ∧
      ∀ most, follow list (.resumed 1) most (.first 1) unnamedStore =
        ((List.replicate most page, none), unnamedStore) := by
  intro list page
  have hlist : list (.first 1) unnamedStore = (.ok page, unnamedStore) := rfl
  refine ⟨unnamedStore_reachable, by decide +kernel, by decide +kernel, rfl, hlist, rfl, rfl,
    fun most => ?_⟩
  induction most with
  | zero => rfl
  | succ most ih => exact follow_more hlist rfl rfl ih

end MoodStore
