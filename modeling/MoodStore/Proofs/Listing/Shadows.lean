import MoodStore.Proofs.Listing.Stability

/-!
Walks past rows that a built-in entry shadows.

A walk goes on from the id of the last item of a page. When the id of a row is reserved, because a
built-in entry has been given its name since, the id stands for that entry, and the walk goes on
from there. The built-in entries come last, so the walk has gone forward: a forward walk loses what
lies between the row and the entry, and a backward walk comes to the row a second time.
-/

namespace MoodStore.Listing

variable {π α β σ : Type}

/-! ### Pages of items and of what they show -/

/-- The page with each of its items shown in another way. -/
def Page.map (f : α → β) (page : Page α) : Page β := ⟨page.items.map f, page.hasMore⟩

lemma Page.map_ofRest (f : α → β) (limit : ℕ) (rest : List α) :
    (Page.ofRest limit rest).map f = .ofRest limit (rest.map f) := by
  simp [Page.map, Page.ofRest, List.map_take]

/-! ### Where a walk goes on -/

variable [LinearOrder π] [Entry α]

lemma indexOf?_eq_none {catalog : Catalog α} {rows : List (π × α)} {live : String → Option π}
    {id : String} (h : placeOf? catalog live id = none) : indexOf? catalog rows live id = none := by
  unfold placeOf? at h
  unfold indexOf?
  cases hindex : catalog.position? id with
  | some index => simp [hindex] at h
  | none =>
    rw [hindex, Option.map_eq_none_iff] at h
    rw [h]
    rfl

/-- A listing in which no row is lost but by its name: a row is found by its own id, unless that is
reserved, and built-in entries have distinct names. -/
structure Settled (catalog : Catalog α) (rows : List (π × α)) (live : String → Option π) :
    Prop where
  distinct : (rows.map Prod.fst).Nodup
  live_mem : ∀ id, ∀ place ∈ live id, place ∈ rows.map Prod.fst
  own : ∀ row ∈ rows, live (Entry.id row.2) = some row.1
  builtin : catalog.Distinct

/-- The place from which a walk goes on after an entry: that of the built-in entry with its id, if
there is one, and else its own. -/
def landing (catalog : Catalog α) (entry : Position π × α) : Position π :=
  (catalog.position? (Entry.id entry.2)).elim entry.1 .static

/-- More follows, and the page ends with this row, whose id the built-in entry at this index has. -/
def Page.EndsShadowed (catalog : Catalog α) (page : Page (Position π × α)) (row : π)
    (index : ℕ) : Prop :=
  page.hasMore = true ∧ ∃ item, page.items.getLast? = some (.dynamic row, item) ∧
    catalog.position? (Entry.id item) = some index

namespace Settled

variable {catalog : Catalog α} {rows : List (π × α)} {live : String → Option π}
  (settled : Settled catalog rows live)

include settled

lemma placeOf?_own {entry : Position π × α} (hentry : entry ∈ marked catalog rows) :
    placeOf? catalog live (Entry.id entry.2) = some (landing catalog entry) := by
  unfold placeOf? landing
  cases hindex : catalog.position? (Entry.id entry.2) with
  | some index => rfl
  | none =>
    obtain ⟨place | index, item⟩ := entry
    · rw [settled.own _ (dynamic_mem_marked.mp hentry)]
      rfl
    · obtain ⟨hlt, rfl⟩ := List.getElem?_eq_some_iff.mp (static_mem_marked.mp hentry)
      simp [settled.builtin.position?_id hlt] at hindex

/-- A walk goes on from the entry itself, or the entry is a row and the walk leaps forward. -/
lemma landing_cases {entry : Position π × α} (hentry : entry ∈ marked catalog rows) :
    landing catalog entry = entry.1 ∨ ∃ row index, entry.1 = .dynamic row ∧
      catalog.position? (Entry.id entry.2) = some index ∧
        landing catalog entry = .static index := by
  unfold landing
  obtain ⟨place | index, item⟩ := entry
  · cases hindex : catalog.position? (Entry.id item) with
    | none => exact .inl rfl
    | some index => exact .inr ⟨place, index, rfl, rfl, rfl⟩
  · obtain ⟨hlt, rfl⟩ := List.getElem?_eq_some_iff.mp (static_mem_marked.mp hentry)
    simp [settled.builtin.position?_id hlt]

lemma le_landing {entry : Position π × α} (hentry : entry ∈ marked catalog rows) :
    entry.1 ≤ landing catalog entry := by
  rcases settled.landing_cases hentry with hown | ⟨row, index, hrow, -, hindex⟩
  · exact hown.ge
  · rw [hrow, hindex]
    exact (dynamic_lt_static row index).le

end Settled

/-! ### The pages of a walk with their places -/

/-- The pages from an edge on, at most `most` of them, with the places of their items. -/
def trail (catalog : Catalog α) (entries : List (Position π × α)) (direction : Direction)
    (limit : ℕ) : (most : ℕ) → Option (Position π) → List (Page (Position π × α))
  | 0, _ => []
  | most + 1, edge? =>
    let page := Page.ofRest limit (direction.ahead edge? entries)
    match page.hasMore, page.items.getLast? with
    | true, some last =>
      page :: trail catalog entries direction limit most (some (landing catalog last))
    | _, _ => [page]

lemma Settled.follow_eq_trail {catalog : Catalog α} {rows : List (π × α)}
    {live : String → Option π} (settled : Settled catalog rows live)
    {ask : Query → StateM σ (Except Error (Page α))} {s : σ}
    (hask : ∀ query page, answer (wholeOrder catalog rows) (indexOf? catalog rows live) query =
      .ok page → ask query s = (.ok page, s))
    (walk : Walk) (most : ℕ) (edge? : Option (Position π)) (query : Query)
    (hquery : answer (wholeOrder catalog rows) (indexOf? catalog rows live) query =
      .ok (.ofRest walk.limit
        ((walk.direction.ahead edge? (marked catalog rows)).map Prod.snd))) :
    follow ask walk.beyond most query s =
      (((trail catalog (marked catalog rows) walk.direction walk.limit most edge?).map
        (Page.map Prod.snd), none), s) := by
  induction most generalizing edge? query with
  | zero => rfl
  | succ most ih =>
    set page := Page.ofRest walk.limit (walk.direction.ahead edge? (marked catalog rows)) with hpage
    rw [← Page.map_ofRest, ← hpage] at hquery
    have hlast : (page.map Prod.snd).lastCursor =
        page.items.getLast?.map fun entry => Entry.id entry.2 := by
      rw [Page.lastCursor, Page.map, List.getLast?_map, Option.map_map]
      rfl
    cases hmore : page.hasMore with
    | false =>
      simp only [trail, ← hpage, hmore]
      exact follow_last (hask query _ hquery) (.inl hmore)
    | true =>
      cases hend : page.items.getLast? with
      | none =>
        rw [hend] at hlast
        simp only [trail, ← hpage, hmore, hend]
        exact follow_last (hask query _ hquery) (.inr hlast)
      | some last =>
        have hmem : last ∈ marked catalog rows :=
          (mem_ahead.mp (List.mem_of_mem_take (List.mem_of_getLast? hend))).1
        have hnext := answer_eq_ahead settled.distinct settled.live_mem walk
          (settled.placeOf?_own hmem)
        rw [hend] at hlast
        simp only [trail, ← hpage, hmore, hend]
        exact follow_more (hask query _ hquery) hmore hlast (ih _ _ hnext)

/-! ### One page of a trail -/

lemma Direction.Precedes.asymm {direction : Direction} {a b : Position π}
    (h : direction.Precedes a b) : ¬direction.Precedes b a := by
  cases direction with
  | ascending => exact lt_asymm h
  | descending => exact lt_asymm h

omit [Entry α] in
lemma mem_ahead_some {direction : Direction} {place : Position π}
    {entries : List (Position π × α)} {entry : Position π × α} :
    entry ∈ direction.ahead (some place) entries ↔
      entry ∈ entries ∧ direction.Precedes place entry.1 := by
  rw [mem_ahead, passes_some_iff]

section Trail

variable {catalog : Catalog α} {entries : List (Position π × α)} {direction : Direction}
  {limit most : ℕ} {edge? : Option (Position π)} {last : Position π × α}

omit [Entry α] in
lemma filter_passes_last {front left : List (Position π × α)}
    (ordered : (front ++ [last] ++ left).Pairwise fun a b => direction.Precedes a.1 b.1) :
    ((front ++ [last] ++ left).filter fun entry => direction.passes (some last.1) entry.1) =
      left := by
  obtain ⟨hbefore, -, hafter⟩ := List.pairwise_append.mp ordered
  have hnone : (front ++ [last]).filter (fun entry => direction.passes (some last.1) entry.1) =
      [] := by
    refine List.filter_eq_nil_iff.mpr fun entry hentry => ?_
    rw [passes_some_iff]
    rcases List.mem_append.mp hentry with h | h
    · exact ((List.pairwise_append.mp hbefore).2.2 entry h last (by simp)).asymm
    · rw [List.mem_singleton.mp h]
      exact fun hself => hself.asymm hself
  have hall : left.filter (fun entry => direction.passes (some last.1) entry.1) = left :=
    List.filter_eq_self.mpr fun entry hentry =>
      passes_some_iff.mpr (hafter last (by simp) entry hentry)
  rw [List.filter_append, hnone, hall, List.nil_append]

omit [Entry α] in
lemma ahead_last (sorted : entries.Pairwise fun a b => a.1 < b.1)
    (hlast : ((direction.ahead edge? entries).take limit).getLast? = some last) :
    direction.ahead (some last.1) entries = (direction.ahead edge? entries).drop limit := by
  have hordered : (direction.ahead edge? entries).Pairwise fun a b => direction.Precedes a.1 b.1 :=
    ahead_pairwise sorted
  have hpass : direction.passes edge? last.1 = true :=
    (mem_ahead.mp (List.mem_of_mem_take (List.mem_of_getLast? hlast))).2
  have hrest : direction.ahead (some last.1) entries =
      (direction.ahead edge? entries).filter
        fun entry => direction.passes (some last.1) entry.1 := by
    rw [Direction.ahead, Direction.ahead, List.filter_filter]
    refine List.filter_congr fun entry _ => ?_
    rw [Bool.eq_iff_iff, Bool.and_eq_true]
    exact (and_iff_left_of_imp fun h =>
      Feed.passes_of_precedes hpass (passes_some_iff.mp h)).symm
  obtain ⟨front, hfront⟩ := List.getLast?_eq_some_iff.mp hlast
  have hsplit : front ++ [last] ++ (direction.ahead edge? entries).drop limit =
      direction.ahead edge? entries := by
    rw [← hfront, List.take_append_drop]
  rw [← hsplit] at hordered
  have hfilter := filter_passes_last hordered
  rw [hsplit] at hfilter
  rw [hrest, hfilter]

/-! ### Trails page by page -/

variable (catalog entries direction limit) in
/-- The pages of a trail: a page that holds all the rest is the last one, and a full page with more
beyond it is followed by the trail from where its last item leads. -/
inductive Trailed : ℕ → Option (Position π) → List (Page (Position π × α)) → Prop
  | spent {edge? : Option (Position π)} : Trailed 0 edge? []
  | last {most : ℕ} {edge? : Option (Position π)}
      (fits : (direction.ahead edge? entries).length ≤ limit) :
      Trailed (most + 1) edge? [⟨direction.ahead edge? entries, false⟩]
  | more {most : ℕ} {edge? : Option (Position π)} {last : Position π × α}
      {pages : List (Page (Position π × α))}
      (exceeds : limit < (direction.ahead edge? entries).length)
      (ends : ((direction.ahead edge? entries).take limit).getLast? = some last)
      (next : Trailed most (some (landing catalog last)) pages) :
      Trailed (most + 1) edge? (⟨(direction.ahead edge? entries).take limit, true⟩ :: pages)

lemma trail_of_fits (fits : (direction.ahead edge? entries).length ≤ limit) :
    trail catalog entries direction limit (most + 1) edge? =
      [⟨direction.ahead edge? entries, false⟩] := by
  simp only [trail, Page.ofRest_of_fits fits]

lemma trail_of_exceeds (exceeds : limit < (direction.ahead edge? entries).length)
    (ends : ((direction.ahead edge? entries).take limit).getLast? = some last) :
    trail catalog entries direction limit (most + 1) edge? =
      ⟨(direction.ahead edge? entries).take limit, true⟩ ::
        trail catalog entries direction limit most (some (landing catalog last)) := by
  simp only [trail, Page.ofRest_of_exceeds exceeds, ends]

lemma trailed (hlimit : 0 < limit) (most : ℕ) (edge? : Option (Position π)) :
    Trailed catalog entries direction limit most edge?
      (trail catalog entries direction limit most edge?) := by
  induction most generalizing edge? with
  | zero => exact .spent
  | succ most ih =>
    by_cases fits : (direction.ahead edge? entries).length ≤ limit
    · rw [trail_of_fits fits]
      exact .last fits
    · have hne : (direction.ahead edge? entries).take limit ≠ [] := by
        rw [← List.length_pos_iff, List.length_take]
        omega
      have ends := List.getLast?_eq_some_getLast hne
      rw [trail_of_exceeds (not_le.mp fits) ends]
      exact .more (not_le.mp fits) ends (ih _)

variable {pages : List (Page (Position π × α))}

omit [LinearOrder π] [Entry α] in
lemma ended_of_cons {items : List α} {pages : List (Page α)} :
    ((⟨items, true⟩ : Page α) :: pages).getLast?.map Page.hasMore = some false ↔
      pages.getLast?.map Page.hasMore = some false := by
  cases pages with
  | nil => simp
  | cons page pages => rw [List.getLast?_cons_cons]

namespace Trailed

lemma trail_eq (trailed : Trailed catalog entries direction limit most edge? pages)
    (ended : pages.getLast?.map Page.hasMore = some false) {most' : ℕ}
    (hmost : pages.length ≤ most') :
    trail catalog entries direction limit most' edge? = pages := by
  induction trailed generalizing most' with
  | spent => simp at ended
  | last fits =>
    obtain ⟨most', rfl⟩ := Nat.exists_eq_succ_of_ne_zero (Nat.one_le_iff_ne_zero.mp hmost)
    exact trail_of_fits fits
  | more exceeds ends next ih =>
    cases most' with
    | zero => simp at hmost
    | succ most' =>
      rw [trail_of_exceeds exceeds ends, ih (ended_of_cons.mp ended) (by simpa using hmost)]

lemma mem_entries (trailed : Trailed catalog entries direction limit most edge? pages)
    {entry : Position π × α} (h : entry ∈ pages.flatMap Page.items) : entry ∈ entries := by
  induction trailed with
  | spent => simp at h
  | last fits =>
    rw [List.flatMap_singleton] at h
    exact (mem_ahead.mp h).1
  | more exceeds ends next ih =>
    rw [List.flatMap_cons, List.mem_append] at h
    rcases h with h | h
    · exact (mem_ahead.mp (List.mem_of_mem_take h)).1
    · exact ih h

lemma length_items (trailed : Trailed catalog entries direction limit most edge? pages)
    (h : pages.getLast?.map Page.hasMore ≠ some false) :
    (pages.flatMap Page.items).length = most * limit := by
  induction trailed with
  | spent => simp
  | last fits => simp at h
  | more exceeds ends next ih =>
    have hnext := ih (by rwa [ne_eq, ended_of_cons] at h)
    rw [List.flatMap_cons, List.length_append, hnext, List.length_take, Nat.succ_mul]
    omega

end Trailed

end Trail

/-! ### Forward -/

variable {catalog : Catalog α} {rows : List (π × α)} {live : String → Option π} {limit : ℕ}
  {pages : List (Page (Position π × α))}

omit [LinearOrder π] in
lemma Page.EndsShadowed.eq {page : Page (Position π × α)} {row : π} {index : ℕ}
    (h : page.EndsShadowed catalog row index) {last : Position π × α}
    (hlast : page.items.getLast? = some last) :
    last.1 = .dynamic row ∧ landing catalog last = .static index := by
  obtain ⟨-, item, hitem, hindex⟩ := h
  obtain rfl := Option.some_inj.mp (hlast.symm.trans hitem)
  exact ⟨rfl, by simp only [landing, hindex, Option.elim_some]⟩

/-- The pages of a forward walk only move on, to the end. Where a page ends with a row whose id is
reserved, the entries behind it are left out, up to and with the built-in entry of that id; no
others are, and there is one such page at most. -/
structure MovesOn (catalog : Catalog α) (entries : List (Position π × α))
    (pages : List (Page (Position π × α))) : Prop where
  ended : pages.getLast?.map Page.hasMore = some false
  count : pages.length ≤ max 1 entries.length
  shown : pages.flatMap Page.items ⊆ entries
  ordered : (pages.flatMap Page.items).Pairwise fun a b => a.1 < b.1
  omitted : ∀ entry ∈ entries, entry ∉ pages.flatMap Page.items ↔
    ∃ page ∈ pages, ∃ row index, page.EndsShadowed catalog row index ∧
      .dynamic row < entry.1 ∧ entry.1 ≤ .static index
  once : pages.Pairwise fun a b => ∀ row index row' index',
    a.EndsShadowed catalog row index → ¬b.EndsShadowed catalog row' index'

namespace MovesOn

lemma last {entries : List (Position π × α)} (sorted : entries.Pairwise fun a b => a.1 < b.1) :
    MovesOn catalog entries [⟨entries, false⟩] where
  ended := rfl
  count := by simp
  shown := by simp
  ordered := by simpa using sorted
  omitted := by
    intro entry hentry
    simp [hentry, Page.EndsShadowed]
  once := List.pairwise_singleton _ _

/-- A full page is followed by pages over what lies beyond the place to which its last item leads,
and no page after it comes back behind that place. -/
lemma cons {shown left : List (Position π × α)} {item : Position π × α}
    (sorted : (shown ++ left).Pairwise fun a b => a.1 < b.1) (ends : shown.getLast? = some item)
    (hleft : left ≠ [])
    (leads : landing catalog item = item.1 ∨ ∃ row index, item.1 = .dynamic row ∧
      catalog.position? (Entry.id item.2) = some index ∧ landing catalog item = .static index)
    (next : MovesOn catalog (left.filter fun entry => landing catalog item < entry.1) pages) :
    MovesOn catalog (shown ++ left) (⟨shown, true⟩ :: pages) := by
  obtain ⟨front, rfl⟩ := List.getLast?_eq_some_iff.mp ends
  obtain ⟨hfront, -, hcross⟩ := List.pairwise_append.mp sorted
  have hle : item.1 ≤ landing catalog item := by
    rcases leads with h | ⟨row, index, hrow, -, h⟩
    · exact h.ge
    · rw [hrow, h]
      exact (dynamic_lt_static row index).le
  have hbefore : ∀ entry ∈ front ++ [item], entry.1 ≤ item.1 := by
    intro entry hentry
    rcases List.mem_append.mp hentry with h | h
    · exact ((List.pairwise_append.mp hfront).2.2 entry h item (by simp)).le
    · rw [List.mem_singleton.mp h]
  have hafter : ∀ entry ∈ left, item.1 < entry.1 := hcross item (by simp)
  have hbeyond : ∀ entry ∈ pages.flatMap Page.items,
      entry ∈ left ∧ landing catalog item < entry.1 := by
    intro entry hentry
    simpa using next.shown hentry
  -- a later page ends beyond the place to which the item leads
  have hlater : ∀ page ∈ pages, ∀ row index, page.EndsShadowed catalog row index →
      landing catalog item < .dynamic row := by
    rintro page hpage row index ⟨-, last, hlast, -⟩
    exact (hbeyond _ (List.mem_flatMap.mpr ⟨page, hpage, List.mem_of_getLast? hlast⟩)).2
  refine ⟨ended_of_cons.mpr next.ended, ?_, ?_, ?_, fun entry hentry => ?_, ?_⟩
  · have hcount := next.count
    have hfilter :=
      List.length_filter_le (fun entry => decide (landing catalog item < entry.1)) left
    have hpos := List.length_pos_of_ne_nil hleft
    simp only [List.length_cons, List.length_append]
    omega
  · rw [List.flatMap_cons]
    intro entry hentry
    rcases List.mem_append.mp hentry with h | h
    · exact List.mem_append_left _ h
    · exact List.mem_append_right _ (hbeyond entry h).1
  · rw [List.flatMap_cons]
    exact List.pairwise_append.mpr ⟨hfront, next.ordered, fun a ha b hb =>
      ((hbefore a ha).trans hle).trans_lt (hbeyond b hb).2⟩
  · rw [List.flatMap_cons, List.mem_append, not_or, List.exists_mem_cons_iff]
    rcases List.mem_append.mp hentry with hshown | hrest
    · refine iff_of_false (fun h => h.1 hshown) ?_
      rintro (⟨row, index, hends, hlt, -⟩ | ⟨page, hpage, row, index, hends, hlt, -⟩)
      · rw [← (hends.eq ends).1] at hlt
        exact hlt.not_ge (hbefore entry hshown)
      · have hrow := hlater page hpage row index hends
        exact (hrow.trans hlt).not_ge ((hbefore entry hshown).trans hle)
    · have hnot : entry ∉ front ++ [item] := fun h => (hafter entry hrest).not_ge (hbefore entry h)
      -- of what is left, the entries up to the place that the item leads to are left out
      by_cases hlt : landing catalog item < entry.1
      · rw [and_iff_right hnot, next.omitted entry (by simp [hrest, hlt]), or_iff_right]
        rintro ⟨row, index, hends, -, hindex⟩
        rw [← (hends.eq ends).2] at hindex
        exact hlt.not_ge hindex
      · refine iff_of_true ⟨hnot, fun h => hlt (hbeyond entry h).2⟩ (.inl ?_)
        rcases leads with h | ⟨row, index, hrow, hindex, h⟩
        · rw [h] at hlt
          exact absurd (hafter entry hrest) hlt
        · refine ⟨row, index, ⟨rfl, item.2, ?_, hindex⟩, ?_, ?_⟩
          · rw [ends, ← hrow]
          · rw [← hrow]
            exact hafter entry hrest
          · rw [← h]
            exact not_lt.mp hlt
  · refine List.pairwise_cons.mpr ⟨fun page hpage row index row' index' hends hends' => ?_,
      next.once⟩
    have hrow := hlater page hpage row' index' hends'
    rw [(hends.eq ends).2] at hrow
    exact lt_asymm hrow (dynamic_lt_static row' index)

end MovesOn

/-- **Forward walks move on to the end.** -/
lemma Settled.movesOn (settled : Settled catalog rows live) (hlimit : 0 < limit) {most : ℕ}
    {edge? : Option (Position π)}
    (trailed : Trailed catalog (marked catalog rows) .ascending limit most edge? pages)
    (hmost : max 1 (Direction.ascending.ahead edge? (marked catalog rows)).length ≤ most) :
    MovesOn catalog (Direction.ascending.ahead edge? (marked catalog rows)) pages := by
  have sorted := marked_pairwise catalog settled.distinct
  have hsorted : ∀ edge?, (Direction.ascending.ahead edge? (marked catalog rows)).Pairwise
    fun a b => a.1 < b.1 := fun edge? => List.Pairwise.filter _ sorted
  induction trailed with
  | spent => omega
  | last fits => exact .last (hsorted _)
  | @more most edge? last pages exceeds ends next ih =>
    have hmem := (mem_ahead.mp (List.mem_of_mem_take (List.mem_of_getLast? ends))).1
    have hland := settled.le_landing hmem
    have hbeyond : Direction.ascending.ahead (some (landing catalog last)) (marked catalog rows) =
        ((Direction.ascending.ahead edge? (marked catalog rows)).drop limit).filter
          fun entry => landing catalog last < entry.1 := by
      rw [← ahead_last sorted ends, Direction.ahead, Direction.ahead, List.filter_filter]
      refine List.filter_congr fun entry _ => ?_
      simp only [Direction.passes, Option.all_some, ← Bool.decide_and, decide_eq_decide]
      exact (and_iff_left_of_imp hland.trans_lt).symm
    have hlength := List.length_filter_le (fun entry => decide (landing catalog last < entry.1))
      ((Direction.ascending.ahead edge? (marked catalog rows)).drop limit)
    rw [hbeyond] at ih
    have hgo := MovesOn.cons (by rw [List.take_append_drop]; exact hsorted edge?) ends
      (by rw [ne_eq, List.drop_eq_nil_iff]; omega) (settled.landing_cases hmem)
      (ih (by rw [List.length_drop] at hlength; omega))
    rwa [List.take_append_drop] at hgo

/-! ### Backward -/

namespace Trailed

lemma split {entries : List (Position π × α)} {direction : Direction} {most : ℕ}
    {edge? : Option (Position π)}
    (trailed : Trailed catalog entries direction limit most edge? pages)
    {page : Page (Position π × α)} (hpage : page ∈ pages) (hmore : page.hasMore = true)
    {last : Position π × α} (hlast : page.items.getLast? = some last) :
    ∃ front, ∀ n, trail catalog entries direction limit (front.length + 1 + n) edge? =
      front ++ page :: trail catalog entries direction limit n (some (landing catalog last)) := by
  induction trailed with
  | spent => simp at hpage
  | last fits =>
    rw [List.mem_singleton.mp hpage] at hmore
    simp at hmore
  | @more most edge? item pages exceeds ends next ih =>
    rcases List.mem_cons.mp hpage with rfl | hnext
    · obtain rfl := Option.some_inj.mp (ends.symm.trans hlast)
      refine ⟨[], fun n => ?_⟩
      rw [List.length_nil, Nat.zero_add, Nat.add_comm, trail_of_exceeds exceeds ends]
      rfl
    · obtain ⟨front, hfront⟩ := ih hnext
      let head : Page (Position π × α) := ⟨(direction.ahead edge? entries).take limit, true⟩
      refine ⟨head :: front, fun n => ?_⟩
      have hcount : (head :: front).length + 1 + n = front.length + 1 + n + 1 := by
        rw [List.length_cons]
        omega
      rw [hcount, trail_of_exceeds exceeds ends, hfront]
      rfl

end Trailed

namespace Settled

variable (settled : Settled catalog rows live)

include settled

lemma complete {most : ℕ} {edge? : Option (Position π)}
    (trailed : Trailed catalog (marked catalog rows) .descending limit most edge? pages)
    (ended : pages.getLast?.map Page.hasMore = some false) :
    Direction.descending.ahead edge? (marked catalog rows) ⊆ pages.flatMap Page.items := by
  induction trailed with
  | spent => simp at ended
  | last fits => simp
  | @more most edge? last pages exceeds ends next ih =>
    have sorted := marked_pairwise catalog settled.distinct
    -- the last item leads to its own place or a later one, so backward nothing is skipped
    have hland := settled.le_landing
      (mem_ahead.mp (List.mem_of_mem_take (List.mem_of_getLast? ends))).1
    intro entry hentry
    rw [← List.take_append_drop limit (Direction.descending.ahead edge? _), List.mem_append,
      ← ahead_last sorted ends, mem_ahead_some] at hentry
    rw [List.flatMap_cons, List.mem_append]
    refine hentry.imp_right fun h => ih (ended_of_cons.mp ended) (mem_ahead_some.mpr ⟨h.1, ?_⟩)
    exact h.2.trans_le hland

/-- A backward trail that leaps forward comes back to the row from which it leapt. -/
lemma repeats (hlimit : 0 < limit) {most : ℕ} {edge? : Option (Position π)}
    (trailed : Trailed catalog (marked catalog rows) .descending limit most edge? pages)
    {page : Page (Position π × α)} (hpage : page ∈ pages) {row : π} {index : ℕ}
    (hends : page.EndsShadowed catalog row index) :
    ∃ most, ¬((trail catalog (marked catalog rows) .descending limit most edge?).flatMap
      Page.items).Nodup := by
  have ⟨hmore, item, hlast, _⟩ := hends
  have hlanding := (hends.eq hlast).2
  obtain ⟨front, hfront⟩ := trailed.split hpage hmore hlast
  have hitem : (.dynamic row, item) ∈ page.items := List.mem_of_getLast? hlast
  have hentry : (.dynamic row, item) ∈ marked catalog rows :=
    trailed.mem_entries (List.mem_flatMap.mpr ⟨page, hpage, hitem⟩)
  have hahead : (.dynamic row, item) ∈ Direction.descending.ahead
      (some (landing catalog (.dynamic row, item))) (marked catalog rows) := by
    rw [hlanding, mem_ahead_some]
    exact ⟨hentry, dynamic_lt_static row index⟩
  by_cases hended : ∃ n, (trail catalog (marked catalog rows) .descending limit n
      (some (landing catalog (.dynamic row, item)))).getLast?.map Page.hasMore = some false
  · -- the trail from the built-in entry ends, so it shows the row again
    obtain ⟨n, ended⟩ := hended
    have hagain := settled.complete (Listing.trailed hlimit n _) ended hahead
    refine ⟨front.length + 1 + n, fun hnodup => ?_⟩
    rw [hfront, List.flatMap_append, List.flatMap_cons] at hnodup
    exact (List.nodup_append.mp (List.nodup_append.mp hnodup).2.1).2.2 _ hitem _ hagain rfl
  · -- the trail from the built-in entry never ends, so it shows more items than there are entries
    let n := (marked catalog rows).length + 1
    refine ⟨front.length + 1 + n, fun hnodup => ?_⟩
    rw [hfront, List.flatMap_append, List.flatMap_cons] at hnodup
    have hrest := (List.nodup_append.mp (List.nodup_append.mp hnodup).2.1).2.1
    have trailed' : Trailed catalog (marked catalog rows) .descending limit n
      (some (landing catalog (.dynamic row, item))) _ := Listing.trailed hlimit n _
    have hsub := List.subperm_of_subset hrest fun entry hentry => trailed'.mem_entries hentry
    have hlength := hsub.length_le
    rw [trailed'.length_items fun ended => hended ⟨n, ended⟩] at hlength
    have hle : n ≤ n * limit := Nat.le_mul_of_pos_right n hlimit
    omega

lemma prefix_of_unshadowed {direction : Direction} {most : ℕ} {edge? : Option (Position π)}
    (trailed : Trailed catalog (marked catalog rows) direction limit most edge? pages)
    (unshadowed : ∀ page ∈ pages, ∀ row index, ¬page.EndsShadowed catalog row index) :
    pages.flatMap Page.items <+: direction.ahead edge? (marked catalog rows) ∧
      (max 1 (direction.ahead edge? (marked catalog rows)).length ≤ most → 0 < limit →
        Cut limit (direction.ahead edge? (marked catalog rows)) pages) := by
  have sorted := marked_pairwise catalog settled.distinct
  induction trailed with
  | spent => exact ⟨List.nil_prefix, fun h => by omega⟩
  | last fits => exact ⟨by simp, fun _ _ => .last fits⟩
  | @more most edge? last pages exceeds ends next ih =>
    have hmem := (mem_ahead.mp (List.mem_of_mem_take (List.mem_of_getLast? ends))).1
    -- what is not shadowed leads to its own place
    have hown : landing catalog last = last.1 := by
      refine (settled.landing_cases hmem).resolve_right ?_
      rintro ⟨row, index, hrow, hindex, -⟩
      exact unshadowed _ List.mem_cons_self row index ⟨rfl, last.2, by rw [ends, ← hrow], hindex⟩
    obtain ⟨hleading, hcut⟩ := ih fun page hpage => unshadowed page (List.mem_cons_of_mem _ hpage)
    rw [hown, ahead_last sorted ends] at hleading hcut
    refine ⟨?_, fun hmost hlimit => .more exceeds (hcut ?_ hlimit)⟩
    · rw [List.flatMap_cons]
      conv_rhs => rw [← List.take_append_drop limit (direction.ahead edge? _)]
      exact (List.prefix_append_right_inj _).mpr hleading
    · rw [List.length_drop]
      omega

end Settled

/-- The pages of a backward walk, of as many as may be asked for. It shows an entry twice just when
a page that has more ends with a row whose id is reserved. If it ends, it has left out nothing that
lies before its start; and if no page ends so, it ends, with that cut into pages, nearest first. -/
structure MovesBack (catalog : Catalog α) (entries : List (Position π × α)) (limit : ℕ)
    (start : Position π) (pages : ℕ → List (Page (Position π × α))) : Prop where
  shown : ∀ most, (pages most).flatMap Page.items ⊆ entries
  repeats : (∃ most, ¬((pages most).flatMap Page.items).Nodup) ↔
    ∃ most, ∃ page ∈ pages most, ∃ row index, page.EndsShadowed catalog row index
  complete : ∀ most, (pages most).getLast?.map Page.hasMore = some false →
    Direction.descending.ahead (some start) entries ⊆ (pages most).flatMap Page.items
  ends : (∀ most, ∀ page ∈ pages most, ∀ row index, ¬page.EndsShadowed catalog row index) →
    ∃ whole, Cut limit (Direction.descending.ahead (some start) entries) whole ∧
      ∀ most, whole.length ≤ most → pages most = whole

namespace Settled

variable (settled : Settled catalog rows live)

include settled

theorem forward (hlimit : 0 < limit) :
    ∃ pages, MovesOn catalog (marked catalog rows) pages ∧ ∀ most, pages.length ≤ most →
      trail catalog (marked catalog rows) .ascending limit most none = pages := by
  have hall : Direction.ascending.ahead none (marked catalog rows) = marked catalog rows := by
    simp [Direction.ahead, Direction.along, Direction.passes]
  have trailed : Trailed catalog (marked catalog rows) .ascending limit
    (max 1 (marked catalog rows).length) none _ := trailed hlimit _ _
  have movesOn := settled.movesOn hlimit trailed (by rw [hall])
  rw [hall] at movesOn
  exact ⟨_, movesOn, fun most => trailed.trail_eq movesOn.ended⟩

theorem backward (hlimit : 0 < limit) (start : Position π) :
    MovesBack catalog (marked catalog rows) limit start fun most =>
      trail catalog (marked catalog rows) .descending limit most (some start) where
  shown most _ := (trailed hlimit most _).mem_entries
  repeats := by
    constructor
    · rintro ⟨most, hrepeats⟩
      by_contra hunshadowed
      push Not at hunshadowed
      have hleading := (settled.prefix_of_unshadowed (trailed hlimit most (some start))
        (hunshadowed most)).1
      have hordered : (Direction.descending.ahead (some start) (marked catalog rows)).Nodup :=
        (ahead_pairwise (marked_pairwise catalog settled.distinct)).imp fun hab heq =>
          (heq ▸ hab).asymm (heq ▸ hab)
      exact hrepeats (hordered.sublist hleading.sublist)
    · rintro ⟨most, page, hpage, row, index, hends⟩
      exact settled.repeats hlimit (trailed hlimit most _) hpage hends
  complete most ended := settled.complete (trailed hlimit most _) ended
  ends unshadowed := by
    let enough := max 1 (Direction.descending.ahead (some start) (marked catalog rows)).length
    have cut := (settled.prefix_of_unshadowed (trailed hlimit enough (some start))
      (unshadowed enough)).2 le_rfl hlimit
    exact ⟨_, cut, fun most => (trailed hlimit enough _).trail_eq cut.ended⟩

end Settled

end MoodStore.Listing
