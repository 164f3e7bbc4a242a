import MoodStore.Cli
import MoodStore.Proofs.Listing.Shadows
import MoodStore.Proofs.Service.Walks

/-!
Walks through the service on stores that others wrote with other built-in moods.

A release can give a built-in mood the name that some row has. Such a row is still listed, but its
name now stands for the built-in mood. A walk forward ends all the same, and loses the entries
between the two only if a page ends with the row; a walk backward then comes back to the row, and
may do so for ever.
-/

namespace MoodStore

open Listing

variable {ρ α β : Type} {catalogs : Set (Catalog Mood)}

/-! ### Listings of a store that nobody writes to -/

/-- What is listed, every entry with its place. -/
def Listing.Feed.entries {σ π : Type} [LinearOrder π] (feed : Feed σ π α) (state : σ) :
    List (Position π × α) :=
  marked feed.catalog (feed.rows state)

/-- The operation lists the entries of the feed, and leaves everything as it is unless it is
refused. -/
structure Lists [Entry α] (feed : Feed (World ρ) ℕ α) (list : Query → Operation ρ (Page α))
    (world : World ρ) : Prop where
  settled : Settled feed.catalog (feed.rows world) (feed.live world)
  answers : ∀ query, (list query world).1 =
    answer (wholeOrder feed.catalog (feed.rows world))
      (indexOf? feed.catalog (feed.rows world) (feed.live world)) query
  unchanged : ∀ query page, (list query world).1 = .ok page → (list query world).2 = world

/-- The walk from the beginning has these pages, however many more it may have. -/
structure WalksOn [Entry α] (feed : Feed (World ρ) ℕ α) (list : Query → Operation ρ (Page α))
    (world : World ρ) (limit : ℕ) (pages : List (Page (Position ℕ × α))) : Prop where
  run : ∀ most, pages.length ≤ most →
    (Walk.mk limit none false).run (fun query => (list query).run) most world =
      ((pages.map (Page.map Prod.snd), none), world)
  movesOn : MovesOn feed.catalog (feed.entries world) pages

/-- The walk backward from an entry. A name that stands for nothing is refused. -/
structure WalksBack [Entry α] (feed : Feed (World ρ) ℕ α) (list : Query → Operation ρ (Page α))
    (world : World ρ) (limit : ℕ) (id : String) : Prop where
  refused : placeOf? feed.catalog (feed.live world) id = none → ∀ most,
    ((Walk.mk limit (some id) true).run (fun query => (list query).run) (most + 1) world).1 =
      ([], some (.cursorNotFound (.before id)))
  walked : ∀ start, placeOf? feed.catalog (feed.live world) id = some start → ∃ pages,
    (∀ most, (Walk.mk limit (some id) true).run (fun query => (list query).run) most world =
      (((pages most).map (Page.map Prod.snd), none), world)) ∧
    MovesBack feed.catalog (feed.entries world) limit start pages

namespace Lists

variable [Entry α] {feed : Feed (World ρ) ℕ α} {list : Query → Operation ρ (Page α)}
  {world : World ρ} (lists : Lists feed list world)

include lists

lemma apply_eq {query : Query} {page : Page α}
    (h : answer (wholeOrder feed.catalog (feed.rows world))
      (indexOf? feed.catalog (feed.rows world) (feed.live world)) query = .ok page) :
    list query world = (.ok page, world) := by
  have hanswer := (lists.answers query).trans h
  exact Prod.ext hanswer (lists.unchanged query page hanswer)

lemma walksOn {limit : ℕ} (hlimit : 0 < limit) : ∃ pages, WalksOn feed list world limit pages := by
  obtain ⟨pages, movesOn, htrail⟩ := lists.settled.forward hlimit
  refine ⟨pages, fun most hmost => ?_, movesOn⟩
  have hfirst : answer (wholeOrder feed.catalog (feed.rows world))
      (indexOf? feed.catalog (feed.rows world) (feed.live world)) (.first limit) =
        .ok (.ofRest limit ((Direction.ascending.ahead none
          (marked feed.catalog (feed.rows world))).map Prod.snd)) := by
    have hall : (Direction.ascending.ahead none (marked feed.catalog (feed.rows world))).map
        Prod.snd = wholeOrder feed.catalog (feed.rows world) := by
      rw [← map_snd_marked]
      simp [Direction.ahead, Direction.along, Direction.passes]
    rw [hall]
    rfl
  have hrun := lists.settled.follow_eq_trail (fun _ _ => lists.apply_eq) ⟨limit, none, false⟩ most
    none (.first limit) hfirst
  rw [← htrail most hmost]
  exact hrun

lemma walksBack {limit : ℕ} (hlimit : 0 < limit) (id : String) :
    WalksBack feed list world limit id where
  refused hplace most := by
    have hanswer : (list (.before id limit) world).1 = .error (.cursorNotFound (.before id)) := by
      rw [lists.answers, answer_eq_error_iff]
      exact ⟨.before id, rfl, indexOf?_eq_none hplace, rfl⟩
    have hlist : list (.before id limit) world =
        (.error (.cursorNotFound (.before id)), (list (.before id limit) world).2) :=
      Prod.ext hanswer rfl
    simp only [Walk.run, follow, bind, StateT.bind]
    have hask : (list (Walk.mk limit (some id) true).first).run world =
        (.error (.cursorNotFound (.before id)), (list (.before id limit) world).2) := hlist
    rw [hask]
    rfl
  walked start hstart := by
    refine ⟨_, fun most => ?_, lists.settled.backward hlimit start⟩
    have hfirst := answer_eq_ahead lists.settled.distinct lists.settled.live_mem
      ⟨limit, some id, true⟩ hstart
    exact lists.settled.follow_eq_trail (fun _ _ => lists.apply_eq) ⟨limit, some id, true⟩ most
      (some start) (.before id limit) hfirst

end Lists

/-! ### The two listings of a service -/

section Service

variable {service : Service ρ} {world : World ρ} {rows : Rows}

lemma Service.logged_reading {name : String} {query : Database → Except Error β} {answer : β}
    (h : (logged name (Operation.reading query) world).1 = .ok answer) :
    (logged name (Operation.reading query) world).2 = world := by
  rw [logged_answer, Operation.reading_apply] at h
  rw [logged_apply, Operation.reading_apply]
  change query world.database = .ok answer at h
  rw [h]

lemma Database.Holds.lists_moods (holds : world.database.Holds catalogs rows)
    (distinct : service.builtins.Distinct) (owner : String) :
    Lists (service.moodFeed owner) (service.listMoods owner) world := by
  have promises := Moods.tier_promises holds owner
  have hrows : (service.moodFeed owner).rows world = rows.numberedMoods owner := by
    simp [Service.moodFeed, holds.1]
  have hlive : (service.moodFeed owner).live world = rows.moodId? owner := by
    funext name
    simp [Service.moodFeed, holds.1]
  refine ⟨?_, fun query => ?_, fun _ _ => Service.logged_reading⟩
  · rw [hrows, hlive]
    refine ⟨promises.distinct, promises.live_mem, fun numbered hnumbered => ?_, distinct⟩
    obtain ⟨row, hrow, rfl⟩ := List.mem_map.mp hnumbered
    obtain ⟨hrow, howner⟩ := List.mem_filter.mp hrow
    have hfind : rows.findMood? owner (foldCase row.name) = some row :=
      holds.2.findMood?_eq_some_iff.mpr ⟨hrow, by simpa using howner, holds.2.key row hrow⟩
    exact congrArg (Option.map MoodRow.id) hfind
  · rw [hrows, hlive, Service.listMoods, Service.logged_answer, Operation.reading_apply]
    exact list_eq_answer promises service.builtins query

lemma Database.Holds.lists_conversations (holds : world.database.Holds catalogs rows)
    (owner : String) :
    Lists (service.conversationFeed owner) (service.listConversations owner) world := by
  have promises := Conversations.tier_promises holds owner
  have hrows : (service.conversationFeed owner).rows world = rows.numberedConversations owner := by
    simp [Service.conversationFeed, holds.1]
  have hlive : (service.conversationFeed owner).live world = rows.conversationId? owner := by
    funext name
    simp [Service.conversationFeed, holds.1]
  refine ⟨?_, fun query => ?_, fun _ _ => Service.logged_reading⟩
  · rw [hrows, hlive]
    refine ⟨promises.distinct, promises.live_mem, fun numbered hnumbered => ?_, List.nodup_nil⟩
    obtain ⟨row, hrow, rfl⟩ := List.mem_map.mp hnumbered
    obtain ⟨hrow, howner⟩ := List.mem_filter.mp hrow
    have hfind : rows.findConversation? owner row.publicId = some row :=
      holds.2.findConversation?_eq_some_iff.mpr ⟨hrow, by simpa using howner, rfl⟩
    exact congrArg (Option.map ConversationRow.id) hfind
  · rw [hrows, hlive, Service.listConversations, Service.logged_answer, Operation.reading_apply]
    exact list_eq_answer promises Catalog.empty query

end Service

/-! ### A store with a shadowed row -/

/-- A service of a release with one built-in mood. -/
def calmService : Service Unit := ⟨⟨[.builtin "calm" "--" "  "]⟩, pure 0⟩

/-- What a release without built-in moods has left of a new store: Ann has three moods, and the
second has the name of the mood that is built in later. -/
def calmStore : World Unit :=
  let service : Service Unit := ⟨⟨[]⟩, pure 0⟩
  let world : World Unit := ⟨.fresh, [], ()⟩
  let world := (service.perform (.setMood "ann" "airy" "oo" "  ") world).2
  let world := (service.perform (.setMood "ann" "calm" "uu" "  ") world).2
  { (service.perform (.setMood "ann" "blue" "oo" "U ") world).2 with log := [] }

lemma calmStore_reachable : Reachable {⟨[]⟩} calmStore.database := by
  let service : Service Unit := ⟨⟨[]⟩, pure 0⟩
  have step : ∀ (world : World Unit) (call : Call), Reachable {⟨[]⟩} world.database →
      Reachable {⟨[]⟩} (service.perform call world).2.database := fun world call reachable =>
    .call reachable service (Set.mem_singleton _) (fun world => .refl world.database) call
  exact step _ _ (step _ _ (step ⟨.fresh, [], ()⟩ _ (.refl _)))

/-! ### Forward -/

lemma Database.Holds.length_entries {world : World Unit} {rows : Rows}
    (holds : world.database.Holds catalogs rows) (owner : String) :
    max 1 (((Service.mk builtinMoods (pure 0)).moodFeed owner).entries world).length ≤
      Cli.maxPages world.database := by
  have hrows : (rows.moodsOf owner).length ≤ rows.moods.length := List.length_filter_le _ _
  have hlength : (((Service.mk builtinMoods (pure 0)).moodFeed owner).entries world).length =
      (rows.moodsOf owner).length + builtinMoods.entries.length := by
    simp [Feed.entries, marked, Service.moodFeed, holds.1, Rows.numberedMoods]
  rw [hlength, Cli.maxPages, holds.1, Option.elim_some]
  omega

/-- **Forward walks end, and their losses are known.** Whatever calls of any owners have been made
on a new store, through services with any built-in moods, a walk from the beginning of either
listing ends; and so does the loop of the command line, which prints what the walk shows. -/
theorem forward_walks_end {service : Service ρ} {world : World ρ}
    (reachable : Reachable catalogs world.database) (distinct : service.builtins.Distinct)
    (owner : String) {limit : ℕ} (hlimit : 0 < limit) :
    (∃ pages, WalksOn (service.moodFeed owner) (service.listMoods owner) world limit pages) ∧
      (∃ pages, WalksOn (service.conversationFeed owner) (service.listConversations owner) world
        limit pages) ∧
      let cli : Service Unit := ⟨builtinMoods, pure 0⟩
      ∃ pages, WalksOn (cli.moodFeed owner) (cli.listMoods owner) ⟨world.database, [], ()⟩
          Query.maxLimit pages ∧
        Cli.listing owner world.database =
          (pages.flatMap fun page => page.items.map fun entry => Cli.moodLine entry.2,
            none, []) := by
  obtain ⟨rows, holds⟩ := reachable.holds
  refine ⟨(holds.lists_moods distinct owner).walksOn hlimit,
    (holds.lists_conversations owner).walksOn hlimit, ?_⟩
  intro cli
  let quiet : World Unit := ⟨world.database, [], ()⟩
  have holds' : quiet.database.Holds catalogs rows := holds
  have hdistinct : cli.builtins.Distinct := by decide +kernel
  have hmax : 0 < Query.maxLimit := by decide
  obtain ⟨pages, walksOn⟩ := (holds'.lists_moods hdistinct owner).walksOn hmax
  refine ⟨pages, walksOn, ?_⟩
  have hrun : (Cli.wholeListing.run (fun query => (cli.listMoods owner query).run)
      (Cli.maxPages world.database)).run quiet =
        ((pages.map (Page.map Prod.snd), none), quiet) :=
    walksOn.run _ (walksOn.movesOn.count.trans (holds'.length_entries owner))
  rw [Cli.listing, hrun]
  simp only [Page.map, List.flatMap_map, List.map_map]
  rfl

/-- In pages of two, Ann's listing ends with the shadowed row, and is left without the mood behind
it and the built-in one. -/
theorem forward_walk_loses_two_moods :
    Reachable {⟨[]⟩} calmStore.database ∧ calmService.builtins.Distinct ∧
      ∃ pages,
        WalksOn (calmService.moodFeed "ann") (calmService.listMoods "ann") calmStore 2 pages ∧
        pages.map (Page.map Prod.snd) =
          [⟨[.owned "airy" "oo" "  ", .owned "calm" "uu" "  "], true⟩, ⟨[], false⟩] := by
  have hdistinct : calmService.builtins.Distinct := by decide +kernel
  obtain ⟨pages, walksOn⟩ := (forward_walks_end calmStore_reachable hdistinct "ann"
    (by decide : 0 < 2)).1
  have hentries : ((calmService.moodFeed "ann").entries calmStore).length = 4 := by decide +kernel
  have hcount := walksOn.movesOn.count
  rw [hentries] at hcount
  have hrun := congrArg Prod.fst (walksOn.run 4 hcount)
  have hshown : ((Walk.mk 2 none false).run (fun query => (calmService.listMoods "ann" query).run)
      4 calmStore).1 = ([⟨[.owned "airy" "oo" "  ", .owned "calm" "uu" "  "], true⟩, ⟨[], false⟩],
        none) := by
    decide +kernel
  exact ⟨calmStore_reachable, hdistinct, pages, walksOn,
    (congrArg Prod.fst hrun).symm.trans (congrArg Prod.fst hshown)⟩

/-! ### Backward -/

/-- **Backward walks repeat themselves only past shadowed rows.** Whatever calls of any owners have
been made on a new store, through services with any built-in moods, a walk backward from an entry of
either listing shows an entry twice just when a page that has more ends with a row whose name is now
that of a built-in mood; otherwise it shows what lies before the entry and ends. No row is like that
where all services have the same built-in moods. -/
theorem backward_walks_repeat_only_past_shadowed_rows {service : Service ρ} {world : World ρ}
    (reachable : Reachable catalogs world.database) (distinct : service.builtins.Distinct)
    (owner : String) {limit : ℕ} (hlimit : 0 < limit) (id : String) :
    WalksBack (service.moodFeed owner) (service.listMoods owner) world limit id ∧
      WalksBack (service.conversationFeed owner) (service.listConversations owner) world limit id ∧
      (catalogs ⊆ {service.builtins} → ∀ row ∈ (service.moodFeed owner).rows world,
        service.builtins.position? (Entry.id row.2) = none) := by
  obtain ⟨rows, holds⟩ := reachable.holds
  refine ⟨(holds.lists_moods distinct owner).walksBack hlimit id,
    (holds.lists_conversations owner).walksBack hlimit id, fun hshared numbered hnumbered => ?_⟩
  simp only [Service.moodFeed, holds.1, Option.elim_some, Rows.numberedMoods] at hnumbered
  obtain ⟨row, hrow, rfl⟩ := List.mem_map.mp hnumbered
  obtain ⟨catalog, hcatalog, hfree⟩ := holds.2.unreserved row (List.mem_of_mem_filter hrow)
  obtain rfl : catalog = service.builtins := hshared hcatalog
  have hposition : service.builtins.position? row.name = none := by
    simpa [Catalog.contains] using hfree
  exact hposition

theorem backward_walk_over_two_moods :
    Reachable {⟨[]⟩} calmStore.database ∧ calmService.builtins.Distinct ∧
      WalksBack (calmService.moodFeed "ann") (calmService.listMoods "ann") calmStore 2 "blue" ∧
      ((Walk.mk 2 (some "blue") true).run (fun query => (calmService.listMoods "ann" query).run) 9
        calmStore).1 =
          ([⟨[.owned "calm" "uu" "  ", .owned "airy" "oo" "  "], false⟩], none) := by
  have hdistinct : calmService.builtins.Distinct := by decide +kernel
  exact ⟨calmStore_reachable, hdistinct,
    (backward_walks_repeat_only_past_shadowed_rows calmStore_reachable hdistinct "ann"
      (by decide : 0 < 2) "blue").1, by decide +kernel⟩

/-- In pages of one, a walk backward from the built-in mood comes to the shadowed row, which leads
it back to the built-in mood: it shows the same two rows again and again, and never ends. -/
theorem backward_walk_goes_round :
    Reachable {⟨[]⟩} calmStore.database ∧ calmService.builtins.Distinct ∧
      ∀ rounds, (Walk.mk 1 (some "calm") true).run
        (fun query => (calmService.listMoods "ann" query).run) (2 * rounds) calmStore =
          (((List.replicate rounds [⟨[.owned "blue" "oo" "U "], true⟩,
            ⟨[.owned "calm" "uu" "  "], true⟩]).flatten, none), calmStore) := by
  refine ⟨calmStore_reachable, by decide +kernel, fun rounds => ?_⟩
  have hcalm : (calmService.listMoods "ann" (.before "calm" 1)).run calmStore =
      (.ok ⟨[.owned "blue" "oo" "U "], true⟩, calmStore) := rfl
  have hblue : (calmService.listMoods "ann" (.before "blue" 1)).run calmStore =
      (.ok ⟨[.owned "calm" "uu" "  "], true⟩, calmStore) := rfl
  induction rounds with
  | zero => rfl
  | succ rounds ih => exact follow_more hcalm rfl rfl (follow_more hblue rfl rfl ih)

end MoodStore
