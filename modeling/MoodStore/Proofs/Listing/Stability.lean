import Mathlib.Data.Sum.Order
import MoodStore.Proofs.Catalog
import MoodStore.Proofs.Listing.Paging

/-!
Walks over a listing that others write to between the pages.

An entry has a place: the row it is, or its index in the catalog. As long as rows keep their places
and their ids, and the entry that a walk goes on from stays, the walk only moves on in the order of
the places, and when it ends it has shown all that stayed from its first page to its last.
-/

namespace MoodStore.Listing

variable {π α σ : Type}

/-! ### The order of places -/

/-- Rows come before built-in entries. -/
def Position.toSum : Position π → Lex (π ⊕ ℕ)
  | .dynamic place => toLex (.inl place)
  | .static index => toLex (.inr index)

lemma Position.toSum_injective : Function.Injective (Position.toSum (π := π)) := by
  rintro (a | a) (b | b) h <;> simp_all [Position.toSum]

variable [LinearOrder π]

instance : LinearOrder (Position π) := LinearOrder.lift' Position.toSum Position.toSum_injective

@[simp] lemma dynamic_lt_dynamic {a b : π} : Position.dynamic a < .dynamic b ↔ a < b :=
  Sum.Lex.inl_lt_inl_iff

@[simp] lemma static_lt_static {a b : ℕ} : (.static a : Position π) < .static b ↔ a < b :=
  Sum.Lex.inr_lt_inr_iff

@[simp] lemma dynamic_lt_static (a : π) (b : ℕ) : Position.dynamic a < .static b :=
  Sum.Lex.inl_lt_inr a b

/-- The one place comes before the other in the direction. -/
def Direction.Precedes (direction : Direction) (a b : Position π) : Prop :=
  match direction with
  | .ascending => a < b
  | .descending => b < a

lemma passes_some_iff {direction : Direction} {a b : Position π} :
    direction.passes (some a) b = true ↔ direction.Precedes a b := by
  cases direction <;> simp [Direction.passes, Direction.Precedes]

lemma Direction.Precedes.trans {direction : Direction} {a b c : Position π}
    (h : direction.Precedes a b) (h' : direction.Precedes b c) : direction.Precedes a c := by
  cases direction with
  | ascending => exact lt_trans h h'
  | descending => exact lt_trans h' h

/-! ### Entries with their places -/

/-- All entries with their places, in order. -/
def marked (catalog : Catalog α) (rows : List (π × α)) : List (Position π × α) :=
  ((inOrder rows).map fun row => (.dynamic row.1, row.2)) ++
    catalog.entries.zipIdx.map fun entry => (.static entry.2, entry.1)

/-- The place of the entry that an id stands for. -/
def placeOf? [Entry α] (catalog : Catalog α) (live : String → Option π) (id : String) :
    Option (Position π) :=
  match catalog.position? id with
  | some index => some (.static index)
  | none => (live id).map .dynamic

/-- What a direction meets beyond an edge. -/
def Direction.ahead (direction : Direction) (edge? : Option (Position π))
    (entries : List (Position π × α)) : List (Position π × α) :=
  (direction.along entries).filter fun entry => direction.passes edge? entry.1

lemma map_snd_marked (catalog : Catalog α) (rows : List (π × α)) :
    (marked catalog rows).map Prod.snd = wholeOrder catalog rows := by
  simp only [marked, wholeOrder, List.map_append, List.map_map, Function.comp_def]
  rw [List.zipIdx_map_fst 0 catalog.entries]

lemma marked_pairwise (catalog : Catalog α) {rows : List (π × α)}
    (h : (rows.map Prod.fst).Nodup) : (marked catalog rows).Pairwise fun a b => a.1 < b.1 := by
  rw [marked, List.pairwise_append, List.pairwise_map, List.pairwise_map]
  refine ⟨?_, ?_, ?_⟩
  · exact (inOrder_pairwise h).imp fun hab => dynamic_lt_dynamic.mpr hab
  · have hidx : (catalog.entries.zipIdx.map Prod.snd).Pairwise (· < ·) := by
      rw [List.zipIdx_map_snd]
      exact List.pairwise_lt_range'
    rw [List.pairwise_map] at hidx
    exact hidx.imp fun hab => static_lt_static.mpr hab
  · intro a ha b hb
    obtain ⟨row, -, rfl⟩ := List.mem_map.mp ha
    obtain ⟨entry, -, rfl⟩ := List.mem_map.mp hb
    exact dynamic_lt_static _ _

@[simp] lemma dynamic_mem_marked {catalog : Catalog α} {rows : List (π × α)} {place : π}
    {item : α} : (.dynamic place, item) ∈ marked catalog rows ↔ (place, item) ∈ rows := by
  simp [marked, (inOrder_perm rows).mem_iff]

@[simp] lemma static_mem_marked {catalog : Catalog α} {rows : List (π × α)} {index : ℕ}
    {item : α} :
    (.static index, item) ∈ marked catalog rows ↔ catalog.entries[index]? = some item := by
  simp [marked, List.mem_zipIdx_iff_getElem?]

lemma nodup_places_marked (catalog : Catalog α) {rows : List (π × α)}
    (h : (rows.map Prod.fst).Nodup) : ((marked catalog rows).map Prod.fst).Nodup := by
  rw [List.nodup_iff_pairwise_ne, List.pairwise_map]
  exact (marked_pairwise catalog h).imp fun hab => hab.ne

lemma entry_unique {catalog : Catalog α} {rows : List (π × α)} (h : (rows.map Prod.fst).Nodup)
    {a b : Position π × α} (ha : a ∈ marked catalog rows) (hb : b ∈ marked catalog rows)
    (hplace : a.1 = b.1) : a = b :=
  List.inj_on_of_nodup_map (nodup_places_marked catalog h) ha hb hplace

lemma mem_ahead {direction : Direction} {edge? : Option (Position π)}
    {entries : List (Position π × α)} {entry : Position π × α} :
    entry ∈ direction.ahead edge? entries ↔
      entry ∈ entries ∧ direction.passes edge? entry.1 = true := by
  cases direction <;> simp [Direction.ahead, Direction.along]

lemma ahead_pairwise {direction : Direction} {edge? : Option (Position π)}
    {entries : List (Position π × α)} (h : entries.Pairwise fun a b => a.1 < b.1) :
    (direction.ahead edge? entries).Pairwise fun a b => direction.Precedes a.1 b.1 := by
  refine List.Pairwise.filter _ ?_
  cases direction with
  | ascending => exact h
  | descending => exact List.pairwise_reverse.mpr h

lemma exists_index [Entry α] {catalog : Catalog α} {rows : List (π × α)}
    {live : String → Option π} (hlive : ∀ id, ∀ place ∈ live id, place ∈ rows.map Prod.fst)
    {id : String} {place : Position π} (h : placeOf? catalog live id = some place) :
    ∃ index, ∃ hlt : index < (marked catalog rows).length,
      indexOf? catalog rows live id = some index ∧ (marked catalog rows)[index].1 = place := by
  unfold placeOf? at h
  unfold indexOf?
  cases hstatic : catalog.position? id with
  | some index =>
    rw [hstatic, Option.some_inj] at h
    obtain ⟨hlt, -⟩ := Catalog.position?_eq_some hstatic
    refine ⟨rows.length + index, by simpa [marked] using hlt, rfl, ?_⟩
    rw [← h]
    simp [marked, List.getElem_append_right]
  | none =>
    rw [hstatic] at h
    obtain ⟨row, hrow, rfl⟩ := Option.map_eq_some_iff.mp h
    obtain ⟨index, hlt, hplace, hindex⟩ := findIdx?_place (hlive id row hrow)
    refine ⟨index, by simp [marked]; simp at hlt; omega, by simp [hrow, hindex], ?_⟩
    simp only [marked]
    rw [List.getElem_append_left (by simpa using hlt), List.getElem_map, hplace]

lemma answer_eq_ahead [Entry α] {catalog : Catalog α} {rows : List (π × α)}
    {live : String → Option π} (hdistinct : (rows.map Prod.fst).Nodup)
    (hlive : ∀ id, ∀ place ∈ live id, place ∈ rows.map Prod.fst)
    (walk : Walk) {id : String} {place : Position π} (h : placeOf? catalog live id = some place) :
    answer (wholeOrder catalog rows) (indexOf? catalog rows live) (walk.beyond id) =
      .ok (.ofRest walk.limit
        ((walk.direction.ahead (some place) (marked catalog rows)).map Prod.snd)) := by
  obtain ⟨index, hlt, hindex, rfl⟩ := exists_index hlive h
  rw [walk.answer_beyond hindex, ← map_snd_marked, Direction.ahead,
    filter_passes_eq_rest (marked_pairwise catalog hdistinct) _ hlt]
  cases walk.direction <;> simp [Direction.rest, List.map_take, List.map_drop]

/-! ### Visits while others write -/

/-- A listing in a changing store: at any time it has rows, ids stand for some of them, and queries
are answered. -/
structure Feed (σ π α : Type) where
  catalog : Catalog α
  rows : σ → List (π × α)
  live : σ → String → Option π
  ask : σ → Query → Except Error (Page α)

/-- A page, and what the store was when it was asked for. -/
structure Visit (σ α : Type) where
  state : σ
  page : Page α

namespace Feed

/-- The entry at a place. -/
def entryAt? (feed : Feed σ π α) (state : σ) (place : Position π) : Option α :=
  ((marked feed.catalog (feed.rows state)).find? fun entry => entry.1 = place).map Prod.snd

/-- The entries that a visit shows are those at these places. -/
def Shows (feed : Feed σ π α) (visit : Visit σ α) (places : List (Position π)) : Prop :=
  places.map (feed.entryAt? visit.state) = visit.page.items.map some

/-- The store has moved on since a visit, and the last item of the visit, whatever may have been
written over it, was not deleted. -/
structure Onward (feed : Feed σ π α) (moves : σ → σ → Prop) (visit : Visit σ α) (item : α)
    (later : σ) : Prop where
  moved : moves visit.state later
  last : visit.page.items.getLast? = some item
  stays : ∃ place, feed.entryAt? visit.state place = some item ∧
    (feed.entryAt? later place).isSome = true

/-- The visits of a walk that begins with a query. It may go on from every last item, and may stop
after every visit. -/
inductive Walked [Entry α] (feed : Feed σ π α) (moves : σ → σ → Prop) (walk : Walk) :
    Query → List (Visit σ α) → Prop
  | stop {query : Query} {visit : Visit σ α}
      (asked : feed.ask visit.state query = .ok visit.page) : Walked feed moves walk query [visit]
  | goOn {query : Query} {visit next : Visit σ α} {visits : List (Visit σ α)} {item : α}
      (asked : feed.ask visit.state query = .ok visit.page)
      (onward : feed.Onward moves visit item next.state)
      (walked : Walked feed moves walk (walk.beyond (Entry.id item)) (next :: visits)) :
      Walked feed moves walk query (visit :: next :: visits)

/-- What writers leave alone: the rows are asked for through a tier that keeps its promises, every
entry is found by its own id, and rows keep their ids. -/
structure Stable [Entry α] (feed : Feed σ π α) (good : σ → Prop) (moves : σ → σ → Prop) :
    Prop where
  moved : ∀ {s s'}, good s → moves s s' → good s'
  promises : ∀ {s}, good s → ∃ tier, Promises tier (feed.rows s) (feed.live s) ∧
    ∀ query, feed.ask s query = list feed.catalog tier query
  builtin : feed.catalog.Distinct
  own : ∀ {s}, good s → ∀ row ∈ feed.rows s,
    feed.catalog.position? (Entry.id row.2) = none ∧ feed.live s (Entry.id row.2) = some row.1
  kept : ∀ {s s'}, good s → moves s s' → ∀ row ∈ feed.rows s, ∀ row' ∈ feed.rows s',
    row'.1 = row.1 → Entry.id row'.2 = Entry.id row.2

/-- A walk moves on in its direction beyond an edge; if it ends, it has shown whatever was there at
each of its visits; and it can go on from a last item that stays. -/
structure Steady [Entry α] (feed : Feed σ π α) (moves : σ → σ → Prop) (walk : Walk)
    (edge? : Option (Position π)) (visits : List (Visit σ α))
    (places : List (List (Position π))) : Prop where
  shows : List.Forall₂ feed.Shows visits places
  beyond : ∀ place ∈ places.flatten, walk.direction.passes edge? place = true
  ordered : places.flatten.Pairwise walk.direction.Precedes
  complete : visits.getLast?.map (fun visit => visit.page.hasMore) = some false →
    ∀ place, walk.direction.passes edge? place = true →
      (∀ visit ∈ visits, (feed.entryAt? visit.state place).isSome = true) →
      place ∈ places.flatten
  onward : ∀ visit ∈ visits.getLast?, ∀ item later, feed.Onward moves visit item later →
    ∃ page, feed.ask later (walk.beyond (Entry.id item)) = .ok page

variable [Entry α] {feed : Feed σ π α} {good : σ → Prop} {moves : σ → σ → Prop}

namespace Stable

lemma asked (stable : feed.Stable good moves) {s : σ} (hs : good s) (query : Query) :
    feed.ask s query = answer (wholeOrder feed.catalog (feed.rows s))
      (indexOf? feed.catalog (feed.rows s) (feed.live s)) query := by
  obtain ⟨tier, promises, hask⟩ := stable.promises hs
  rw [hask, list_eq_answer promises]

lemma distinct (stable : feed.Stable good moves) {s : σ} (hs : good s) :
    ((feed.rows s).map Prod.fst).Nodup := by
  obtain ⟨tier, promises, -⟩ := stable.promises hs
  exact promises.distinct

lemma live_mem (stable : feed.Stable good moves) {s : σ} (hs : good s) :
    ∀ id, ∀ place ∈ feed.live s id, place ∈ (feed.rows s).map Prod.fst := by
  obtain ⟨tier, promises, -⟩ := stable.promises hs
  exact promises.live_mem

lemma entryAt?_eq_some_iff (stable : feed.Stable good moves) {s : σ} (hs : good s)
    {place : Position π} {item : α} :
    feed.entryAt? s place = some item ↔ (place, item) ∈ marked feed.catalog (feed.rows s) := by
  unfold entryAt?
  constructor
  · intro h
    obtain ⟨entry, hfind, rfl⟩ := Option.map_eq_some_iff.mp h
    obtain rfl : entry.1 = place := by simpa using List.find?_some hfind
    exact List.mem_of_find?_eq_some hfind
  · intro h
    obtain ⟨entry, hfind⟩ : ∃ entry, (marked feed.catalog (feed.rows s)).find?
        (fun entry => entry.1 = place) = some entry := by
      rw [← Option.isSome_iff_exists, List.find?_isSome]
      exact ⟨_, h, by simp⟩
    have hplace : entry.1 = place := by simpa using List.find?_some hfind
    have hentry := entry_unique (stable.distinct hs) (List.mem_of_find?_eq_some hfind) h hplace
    rw [hfind, hentry]
    rfl

lemma placeOf?_own (stable : feed.Stable good moves) {s : σ} (hs : good s)
    {place : Position π} {item : α} (h : (place, item) ∈ marked feed.catalog (feed.rows s)) :
    placeOf? feed.catalog (feed.live s) (Entry.id item) = some place := by
  cases place with
  | dynamic place =>
    obtain ⟨hreserved, hlive⟩ := stable.own hs _ (dynamic_mem_marked.mp h)
    simp only [placeOf?, hreserved, hlive, Option.map_some]
  | static index =>
    obtain ⟨hlt, rfl⟩ := List.getElem?_eq_some_iff.mp (static_mem_marked.mp h)
    simp only [placeOf?, stable.builtin.position?_id hlt]

lemma placeOf?_later (stable : feed.Stable good moves) {s s' : σ} (hs : good s)
    (hmoves : moves s s') {place : Position π} {item : α}
    (hitem : feed.entryAt? s place = some item)
    (hstays : (feed.entryAt? s' place).isSome = true) :
    placeOf? feed.catalog (feed.live s') (Entry.id item) = some place := by
  have hs' := stable.moved hs hmoves
  obtain ⟨item', hitem'⟩ := Option.isSome_iff_exists.mp hstays
  rw [stable.entryAt?_eq_some_iff hs] at hitem
  rw [stable.entryAt?_eq_some_iff hs'] at hitem'
  have hid : Entry.id item' = Entry.id item := by
    cases place with
    | dynamic place =>
      exact stable.kept hs hmoves _ (dynamic_mem_marked.mp hitem) _
        (dynamic_mem_marked.mp hitem') rfl
    | static index =>
      rw [static_mem_marked] at hitem hitem'
      rw [Option.some_inj.mp (hitem.symm.trans hitem')]
  rw [← hid]
  exact stable.placeOf?_own hs' hitem'

lemma ask_onward (stable : feed.Stable good moves) (walk : Walk) {visit : Visit σ α} {item : α}
    {later : σ} (hs : good visit.state) (onward : feed.Onward moves visit item later) :
    ∃ place, feed.entryAt? visit.state place = some item ∧
      feed.ask later (walk.beyond (Entry.id item)) = .ok (.ofRest walk.limit
        ((walk.direction.ahead (some place) (marked feed.catalog (feed.rows later))).map
          Prod.snd)) := by
  obtain ⟨place, hitem, hstays⟩ := onward.stays
  have hlater := stable.moved hs onward.moved
  refine ⟨place, hitem, ?_⟩
  rw [stable.asked hlater]
  exact answer_eq_ahead (stable.distinct hlater) (stable.live_mem hlater) walk
    (stable.placeOf?_later hs onward.moved hitem hstays)

lemma entryAt?_inj (stable : feed.Stable good moves) {s : σ} (hs : good s) {a b : Position π}
    {item : α} (ha : feed.entryAt? s a = some item) (hb : feed.entryAt? s b = some item) :
    a = b := by
  rw [stable.entryAt?_eq_some_iff hs] at ha hb
  exact Option.some_inj.mp ((stable.placeOf?_own hs ha).symm.trans (stable.placeOf?_own hs hb))

/-- A page that shows the beginning of what lies ahead of an edge shows places beyond it in order;
whatever it leaves lies beyond all of them. -/
lemma exists_places (stable : feed.Stable good moves) {visit : Visit σ α} (hs : good visit.state)
    {direction : Direction} {edge? : Option (Position π)} {limit : ℕ}
    (hpage : visit.page = .ofRest limit
      ((direction.ahead edge? (marked feed.catalog (feed.rows visit.state))).map Prod.snd)) :
    ∃ places, feed.Shows visit places ∧ (∀ place ∈ places, direction.passes edge? place = true) ∧
      places.Pairwise direction.Precedes ∧
      ∀ place, direction.passes edge? place = true →
        (feed.entryAt? visit.state place).isSome = true → place ∈ places ∨
          visit.page.hasMore = true ∧ ∀ shown ∈ places, direction.Precedes shown place := by
  set seen := direction.ahead edge? (marked feed.catalog (feed.rows visit.state)) with hseen
  have hordered : seen.Pairwise fun a b => direction.Precedes a.1 b.1 :=
    ahead_pairwise (marked_pairwise _ (stable.distinct hs))
  refine ⟨(seen.take limit).map Prod.fst, ?_, ?_, ?_, ?_⟩
  · simp only [Shows, hpage, Page.ofRest, ← List.map_take, List.map_map]
    refine List.map_congr_left fun entry hentry => ?_
    exact (stable.entryAt?_eq_some_iff hs).mpr (mem_ahead.mp (List.mem_of_mem_take hentry)).1
  · intro place hplace
    obtain ⟨entry, hentry, rfl⟩ := List.mem_map.mp hplace
    exact (mem_ahead.mp (List.mem_of_mem_take hentry)).2
  · rw [List.pairwise_map]
    exact hordered.sublist (List.take_sublist _ _)
  · intro place hpass hlive
    obtain ⟨item, hitem⟩ := Option.isSome_iff_exists.mp hlive
    rw [stable.entryAt?_eq_some_iff hs] at hitem
    have hmem : (place, item) ∈ seen := mem_ahead.mpr ⟨hitem, hpass⟩
    rw [← List.take_append_drop limit seen] at hmem hordered
    rcases List.mem_append.mp hmem with htaken | hleft
    · exact .inl (List.mem_map.mpr ⟨_, htaken, rfl⟩)
    · -- an entry that the page leaves lies beyond all that it shows
      refine .inr ⟨?_, fun shown hshown => ?_⟩
      · have hlong := List.length_pos_of_mem hleft
        rw [List.length_drop] at hlong
        simp only [hpage, Page.ofRest, List.length_map, decide_eq_true_eq]
        omega
      · obtain ⟨entry, hentry, rfl⟩ := List.mem_map.mp hshown
        exact (List.pairwise_append.mp hordered).2.2 entry hentry _ hleft

end Stable

omit [Entry α] in
lemma Shows.getLast? {visit : Visit σ α} {places : List (Position π)}
    (shows_ : feed.Shows visit places) {item : α} (h : visit.page.items.getLast? = some item) :
    ∃ place, places.getLast? = some place ∧ feed.entryAt? visit.state place = some item := by
  have hlast := congrArg List.getLast? shows_
  rw [List.getLast?_map, List.getLast?_map, h] at hlast
  exact Option.map_eq_some_iff.mp hlast

lemma passes_of_precedes {direction : Direction} {edge? : Option (Position π)}
    {a b : Position π} (ha : direction.passes edge? a = true) (hab : direction.Precedes a b) :
    direction.passes edge? b = true := by
  cases edge? with
  | none => rfl
  | some edge => exact passes_some_iff.mpr ((passes_some_iff.mp ha).trans hab)

lemma Walked.asked {walk : Walk} {query : Query} {visits : List (Visit σ α)}
    (walked : feed.Walked moves walk query visits) :
    ∀ visit ∈ visits.head?, feed.ask visit.state query = .ok visit.page := by
  cases walked with
  | stop asked => simpa using asked
  | goOn asked => simpa using asked

/-- **Walks move on steadily.** If a query shows what lies ahead of an edge, so do, beyond the
places that were shown before, all visits of a walk that begins with it. -/
theorem Walked.steady (stable : feed.Stable good moves) {walk : Walk} {query : Query}
    {visits : List (Visit σ α)} (walked : feed.Walked moves walk query visits)
    (edge? : Option (Position π))
    (hfirst : ∀ visit ∈ visits.head?, good visit.state ∧ visit.page = .ofRest walk.limit
      ((walk.direction.ahead edge? (marked feed.catalog (feed.rows visit.state))).map Prod.snd)) :
    ∃ places, feed.Steady moves walk edge? visits places := by
  induction walked generalizing edge? with
  | @stop query visit asked =>
    obtain ⟨hs, hpage⟩ := hfirst visit rfl
    obtain ⟨places, hshows, hbeyond, hordered, hleft⟩ := stable.exists_places hs hpage
    refine ⟨[places], .cons hshows .nil, by simpa using hbeyond, by simpa using hordered, ?_, ?_⟩
    · intro hmore place hpass hlive
      rw [List.flatten_singleton]
      refine (hleft place hpass (hlive visit (by simp))).resolve_right fun h => ?_
      simp [h.1] at hmore
    · intro last hlast item later onward
      obtain rfl : visit = last := by simpa using hlast
      obtain ⟨place, -, hask⟩ := stable.ask_onward walk hs onward
      exact ⟨_, hask⟩
  | @goOn query visit next visits item asked onward walked ih =>
    obtain ⟨hs, hpage⟩ := hfirst visit rfl
    obtain ⟨places, hshows, hbeyond, hordered, hleft⟩ := stable.exists_places hs hpage
    obtain ⟨edge, hedge, hask⟩ := stable.ask_onward walk hs onward
    -- the page ends at the edge from which the rest of the walk goes on
    obtain ⟨last, hlast, hitem⟩ := hshows.getLast? onward.last
    obtain rfl := stable.entryAt?_inj hs hedge hitem
    obtain ⟨front, rfl⟩ := List.getLast?_eq_some_iff.mp hlast
    obtain ⟨rest, steady⟩ := ih (some edge) fun other hother => by
      have hpage' := (hask.symm.trans (walked.asked next rfl))
      obtain rfl : next = other := by simpa using hother
      exact ⟨stable.moved hs onward.moved, (Except.ok.inj hpage').symm⟩
    have hedge : ∀ place ∈ rest.flatten, walk.direction.Precedes edge place :=
      fun place hplace => passes_some_iff.mp (steady.beyond place hplace)
    have hfront : ∀ place ∈ front ++ [edge], place = edge ∨ walk.direction.Precedes place edge := by
      intro place hplace
      rcases List.mem_append.mp hplace with h | h
      · exact .inr ((List.pairwise_append.mp hordered).2.2 place h edge (by simp))
      · exact .inl (List.mem_singleton.mp h)
    refine ⟨(front ++ [edge]) :: rest, .cons hshows steady.shows, ?_, ?_, ?_, ?_⟩
    · intro place hplace
      rw [List.flatten_cons] at hplace
      rcases List.mem_append.mp hplace with h | h
      · exact hbeyond place h
      · exact passes_of_precedes (hbeyond edge (by simp)) (hedge place h)
    · rw [List.flatten_cons, List.pairwise_append]
      refine ⟨hordered, steady.ordered, fun a ha b hb => ?_⟩
      rcases hfront a ha with rfl | h
      · exact hedge b hb
      · exact h.trans (hedge b hb)
    · intro hmore place hpass hlive
      rw [List.flatten_cons, List.mem_append]
      rcases hleft place hpass (hlive visit (by simp)) with h | ⟨-, h⟩
      · exact .inl h
      · refine .inr (steady.complete ?_ place (passes_some_iff.mpr (h edge (by simp)))
          fun other hother => hlive other (List.mem_cons_of_mem _ hother))
        rwa [List.getLast?_cons_cons] at hmore
    · intro last hlast
      rw [List.getLast?_cons_cons] at hlast
      exact steady.onward last hlast

/-- The place that a walk starts beyond, if it does not start at the beginning. -/
def start? (feed : Feed σ π α) (walk : Walk) (visits : List (Visit σ α)) : Option (Position π) :=
  visits.head?.bind fun visit =>
    walk.from?.bind fun id => placeOf? feed.catalog (feed.live visit.state) id

/-- The first page of a walk shows what lies ahead of its start. -/
lemma Stable.ask_first (stable : feed.Stable good moves) {walk : Walk}
    (hwalk : walk.backward = true → walk.from?.isSome = true) {s : σ} (hs : good s)
    {page : Page α} (hpage : feed.ask s walk.first = .ok page) :
    page = .ofRest walk.limit ((walk.direction.ahead
      (walk.from?.bind fun id => placeOf? feed.catalog (feed.live s) id)
      (marked feed.catalog (feed.rows s))).map Prod.snd) := by
  rw [stable.asked hs] at hpage
  cases hfrom : walk.from? with
  | none =>
    have hforward : walk.direction = .ascending := by
      cases hback : walk.backward
      · simp [Walk.direction, hback]
      · simpa [hfrom] using hwalk hback
    have hall : (Direction.ascending.ahead none (marked feed.catalog (feed.rows s))).map Prod.snd =
        wholeOrder feed.catalog (feed.rows s) := by
      rw [← map_snd_marked]
      simp [Direction.ahead, Direction.along, Direction.passes]
    rw [hforward, Option.bind_none, hall]
    simpa [Walk.first, hfrom, Query.first, answer] using hpage.symm
  | some id =>
    simp only [Walk.first, hfrom] at hpage
    rw [Option.bind_some]
    cases hplace : placeOf? feed.catalog (feed.live s) id with
    | some place =>
      rw [answer_eq_ahead (stable.distinct hs) (stable.live_mem hs) walk hplace] at hpage
      exact (Except.ok.inj hpage).symm
    | none =>
      have hindex : indexOf? feed.catalog (feed.rows s) (feed.live s) id = none := by
        unfold placeOf? at hplace
        unfold indexOf?
        cases hstatic : feed.catalog.position? id with
        | some index => simp [hstatic] at hplace
        | none =>
          rw [hstatic, Option.map_eq_none_iff] at hplace
          rw [hplace]
          rfl
      cases hback : walk.backward <;>
        simp [Walk.beyond, hback, Query.after, Query.before, answer, Cursor.id, hindex] at hpage

lemma Stable.steady (stable : feed.Stable good moves) {walk : Walk}
    (hwalk : walk.backward = true → walk.from?.isSome = true) {visits : List (Visit σ α)}
    (walked : feed.Walked moves walk walk.first visits)
    (hgood : ∀ visit ∈ visits.head?, good visit.state) :
    ∃ places, feed.Steady moves walk (feed.start? walk visits) visits places := by
  refine walked.steady stable _ fun visit hvisit => ⟨hgood visit hvisit, ?_⟩
  rw [start?, Option.mem_def.mp hvisit]
  exact stable.ask_first hwalk (hgood visit hvisit) (walked.asked visit hvisit)

end Feed

end MoodStore.Listing
