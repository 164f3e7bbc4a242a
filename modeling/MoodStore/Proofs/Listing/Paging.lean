import Mathlib.Tactic.Ring
import MoodStore.Proofs.Listing.Order

/-!
Walks over a listing that nobody writes to.

Asked for page after page, each beyond the last item of the one before, a listing is cut into pieces
of the page size. Forward from the beginning or from an entry, and backward from an entry, the walk
ends and shows every entry that lies ahead of it once and in order, whichever tier it is in.
-/

namespace MoodStore.Listing

variable {π α σ : Type}

/-! ### Entries cut into pages -/

/-- The pages cut the entries into pieces of the limit; all but the last say that more follow. -/
inductive Cut (limit : ℕ) : List α → List (Page α) → Prop
  | last {rest : List α} (fits : rest.length ≤ limit) : Cut limit rest [⟨rest, false⟩]
  | more {rest : List α} {pages : List (Page α)} (exceeds : limit < rest.length)
      (next : Cut limit (rest.drop limit) pages) :
      Cut limit rest (⟨rest.take limit, true⟩ :: pages)

variable {limit : ℕ} {rest : List α} {pages : List (Page α)}

lemma Page.ofRest_of_fits (fits : rest.length ≤ limit) :
    Page.ofRest limit rest = ⟨rest, false⟩ := by
  simp [Page.ofRest, List.take_of_length_le fits, fits]

lemma Page.ofRest_of_exceeds (exceeds : limit < rest.length) :
    Page.ofRest limit rest = ⟨rest.take limit, true⟩ := by
  simp only [Page.ofRest, exceeds, decide_true]

lemma Cut.ne_nil (cut : Cut limit rest pages) : pages ≠ [] := by
  cases cut <;> simp

lemma Cut.flatMap_items (cut : Cut limit rest pages) : pages.flatMap Page.items = rest := by
  induction cut with
  | last => simp
  | more _ _ ih => rw [List.flatMap_cons, ih, List.take_append_drop]

lemma Cut.full (cut : Cut limit rest pages) :
    ∀ page ∈ pages.dropLast, page.items.length = limit ∧ page.hasMore = true := by
  induction cut with
  | last => simp
  | more exceeds next ih =>
    intro page hpage
    rw [List.dropLast_cons_of_ne_nil next.ne_nil, List.mem_cons] at hpage
    rcases hpage with rfl | hpage
    · exact ⟨by rw [List.length_take]; omega, rfl⟩
    · exact ih page hpage

lemma Cut.ended (cut : Cut limit rest pages) :
    pages.getLast?.map Page.hasMore = some false := by
  induction cut with
  | last => rfl
  | more _ next ih =>
    obtain ⟨page, pages, rfl⟩ := List.exists_cons_of_ne_nil next.ne_nil
    rwa [List.getLast?_cons_cons]

lemma Cut.length_eq (hlimit : 0 < limit) (cut : Cut limit rest pages) :
    pages.length = max 1 ((rest.length + limit - 1) / limit) := by
  induction cut with
  | @last rest fits =>
    have hle : (rest.length + limit - 1) / limit ≤ 1 := by
      rw [Nat.div_le_iff_le_mul_add_pred hlimit]; omega
    rw [List.length_singleton]
    omega
  | @more rest pages exceeds next ih =>
    have hsplit : rest.length + limit - 1 = (rest.length - limit + limit - 1) + limit := by omega
    have hpos : 1 ≤ (rest.length - limit + limit - 1) / limit := by
      rw [Nat.le_div_iff_mul_le hlimit]; omega
    rw [List.length_cons, ih, List.length_drop, hsplit, Nat.add_div_right _ hlimit]
    omega

lemma exists_cut (hlimit : 0 < limit) (rest : List α) : ∃ pages, Cut limit rest pages := by
  induction hn : rest.length using Nat.strong_induction_on generalizing rest with
  | _ n ih =>
    by_cases h : rest.length ≤ limit
    · exact ⟨_, .last h⟩
    · obtain ⟨pages, cut⟩ := ih (rest.drop limit).length (by rw [List.length_drop]; omega) _ rfl
      exact ⟨_, .more (by omega) cut⟩

/-! ### Following the last items -/

variable [Entry α]

omit [Entry α] in
lemma getLast?_take_drop (hlimit : 0 < limit) (entries : List α) (start : ℕ)
    (h : start + limit - 1 < entries.length) :
    ((entries.drop start).take limit).getLast? = some entries[start + limit - 1] := by
  have hlen : ((entries.drop start).take limit).length - 1 = limit - 1 := by
    rw [List.length_take, List.length_drop]; omega
  have hindex : start + (limit - 1) = start + limit - 1 := by omega
  simp only [List.getLast?_eq_getElem?, hlen]
  rw [List.getElem?_take_of_lt (by omega), List.getElem?_drop, hindex, List.getElem?_eq_getElem h]

lemma lastCursor_take_drop (hlimit : 0 < limit) (entries : List α) (start : ℕ) (more : Bool)
    (h : start + limit - 1 < entries.length) :
    Page.lastCursor ⟨(entries.drop start).take limit, more⟩ =
      some (Entry.id entries[start + limit - 1]) := by
  rw [Page.lastCursor, getLast?_take_drop hlimit entries start h]
  rfl

lemma follow_last {ask : Query → StateM σ (Except Error (Page α))} {next : String → Query}
    {query : Query} {page : Page α} {most : ℕ} {s : σ} (hask : ask query s = (.ok page, s))
    (hend : page.hasMore = false ∨ page.lastCursor = none) :
    follow ask next (most + 1) query s = (([page], none), s) := by
  simp only [follow, bind, StateT.bind, hask]
  rcases hend with hmore | hlast
  · simp only [hmore]
    rfl
  · simp only [hlast]
    cases page.hasMore <;> rfl

lemma follow_more {ask : Query → StateM σ (Except Error (Page α))} {next : String → Query}
    {query : Query} {page : Page α} {id : String} {most : ℕ} {pages : List (Page α)} {s : σ}
    (hask : ask query s = (.ok page, s)) (hmore : page.hasMore = true)
    (hlast : page.lastCursor = some id) (hrest : follow ask next most (next id) s =
      ((pages, none), s)) :
    follow ask next (most + 1) query s = ((page :: pages, none), s) := by
  simp only [follow, bind, StateT.bind, hask, hmore, hlast, hrest]
  rfl

/-- Where the page beyond each entry with a good id shows the entries after it, following the last
items cuts what is left, if only good ids have to be followed. -/
lemma follow_cut (hlimit : 0 < limit) {ask : Query → StateM σ (Except Error (Page α))}
    {next : String → Query} {entries : List α} {s : σ} (good : String → Prop)
    (hnext : ∀ i (h : i < entries.length), good (Entry.id entries[i]) →
      ask (next (Entry.id entries[i])) s = (.ok (.ofRest limit (entries.drop (i + 1))), s))
    (cut : Cut limit rest pages)
    (hgood : ∀ page ∈ pages, page.hasMore = true → ∀ id ∈ page.lastCursor, good id)
    (start most : ℕ) (query : Query) (hrest : rest = entries.drop start)
    (hask : ask query s = (.ok (.ofRest limit rest), s)) (hmost : pages.length ≤ most) :
    follow ask next most query s = ((pages, none), s) := by
  induction cut generalizing start most query with
  | @last rest fits =>
    obtain ⟨most, rfl⟩ := Nat.exists_eq_succ_of_ne_zero (Nat.one_le_iff_ne_zero.mp hmost)
    rw [Page.ofRest_of_fits fits] at hask
    exact follow_last hask (.inl rfl)
  | @more rest pages exceeds cut ih =>
    subst hrest
    rw [Page.ofRest_of_exceeds exceeds] at hask
    cases most with
    | zero => simp at hmost
    | succ most =>
      have hlen : start + limit < entries.length := by
        rw [List.length_drop] at exceeds; omega
      -- the last item of the page is the entry just before those that the page leaves
      have hlast := lastCursor_take_drop hlimit entries start true (by omega)
      have hdrop : (entries.drop start).drop limit = entries.drop (start + limit) := List.drop_drop
      have hask' := hnext (start + limit - 1) (by omega)
        (hgood _ List.mem_cons_self rfl _ hlast)
      rw [show start + limit - 1 + 1 = start + limit by omega, ← hdrop] at hask'
      exact follow_more hask rfl hlast
        (ih (fun page hpage => hgood page (List.mem_cons_of_mem _ hpage)) (start + limit) most _
          hdrop hask' (by rw [List.length_cons] at hmost; omega))

/-! ### Walks -/

namespace Walk

/-- The direction in which a walk goes on from an entry. -/
def direction (walk : Walk) : Direction := if walk.backward then .descending else .ascending

/-- Asked page after page, the walk shows these pages and stops by itself, however many more it may
have. They cut the entries into pieces of the page size: no entry is lost or comes twice, all pages
but the last are full, and only the last says that nothing follows. -/
structure Covers (walk : Walk) (ask : Query → Except Error (Page α)) (entries : List α)
    (pages : List (Page α)) : Prop where
  run : ∀ {σ : Type} (most : ℕ) (s : σ), pages.length ≤ most →
    (walk.run (fun query => pure (ask query)) most).run s = ((pages, none), s)
  items : pages.flatMap Page.items = entries
  full : ∀ page ∈ pages.dropLast, page.items.length = walk.limit ∧ page.hasMore = true
  ended : pages.getLast?.map Page.hasMore = some false
  count : pages.length = max 1 ((entries.length + walk.limit - 1) / walk.limit)

omit [Entry α] in
lemma answer_beyond (walk : Walk) {order : List α} {index? : String → Option ℕ} {id : String}
    {index : ℕ} (h : index? id = some index) :
    answer order index? (walk.beyond id) =
      .ok (.ofRest walk.limit (walk.direction.rest order index)) := by
  cases hbackward : walk.backward
  · simp only [beyond, direction, hbackward, Bool.false_eq_true, if_false, Query.after, answer,
      Cursor.id, Cursor.direction, h]
  · simp only [beyond, direction, hbackward, if_true, Query.before, answer, Cursor.id,
      Cursor.direction, h]

lemma covers_drop (walk : Walk) (hlimit : 0 < walk.limit) {order : List α}
    {index? : String → Option ℕ}
    (own : ∀ i (h : i < order.length), index? (Entry.id order[i]) = some i) (start : ℕ)
    (hfirst : answer order index? walk.first =
      .ok (.ofRest walk.limit ((walk.direction.along order).drop start))) :
    ∃ pages, walk.Covers (answer order index?) ((walk.direction.along order).drop start) pages := by
  have hnext : ∀ i (h : i < (walk.direction.along order).length),
      answer order index? (walk.beyond (Entry.id (walk.direction.along order)[i])) =
        .ok (.ofRest walk.limit ((walk.direction.along order).drop (i + 1))) := by
    intro i h
    have hi : i < order.length := by simpa using h
    -- the walk counts its entries from its own end
    have hturn := turn_lt walk.direction hi
    have hentry : (walk.direction.along order)[i] =
        order[walk.direction.turn order.length i] := by
      have := getElem_along_turn walk.direction hturn (by simpa [turn_turn _ hi] using hi)
      simpa only [turn_turn _ hi] using this
    rw [hentry, walk.answer_beyond (own _ hturn), rest_eq_drop_along _ hturn, turn_turn _ hi]
  obtain ⟨pages, cut⟩ := exists_cut hlimit ((walk.direction.along order).drop start)
  exact ⟨pages,
    { run := fun most s hmost =>
        follow_cut hlimit (fun _ => True) (fun i h _ => congrArg (·, s) (hnext i h)) cut (by simp)
          start most walk.first rfl (congrArg (·, s) hfirst) hmost
      items := cut.flatMap_items
      full := cut.full
      ended := cut.ended
      count := cut.length_eq hlimit }⟩

end Walk

/-- **Walking shows the whole order.** Where every entry's own id stands for that entry, following
the last items from the beginning shows all entries, after an entry those behind it, and before an
entry those in front of it, nearest first. -/
theorem walks_cover_order [LinearOrder π] {tier : DynamicTier (Except Error) π α}
    {rows : List (π × α)} {live : String → Option π} (promises : Promises tier rows live)
    (catalog : Catalog α)
    (own : ∀ i (h : i < (wholeOrder catalog rows).length),
      indexOf? catalog rows live (Entry.id (wholeOrder catalog rows)[i]) = some i)
    (limit : ℕ) (hlimit : 0 < limit) :
    (∃ pages, (Walk.mk limit none false).Covers (list catalog tier) (wholeOrder catalog rows)
      pages) ∧
    ∀ i (h : i < (wholeOrder catalog rows).length),
      let id := Entry.id (wholeOrder catalog rows)[i]
      (∃ pages, (Walk.mk limit (some id) false).Covers (list catalog tier)
        ((wholeOrder catalog rows).drop (i + 1)) pages) ∧
      ∃ pages, (Walk.mk limit (some id) true).Covers (list catalog tier)
        ((wholeOrder catalog rows).take i).reverse pages := by
  have hlist : list catalog tier = answer (wholeOrder catalog rows) (indexOf? catalog rows live) :=
    funext (list_eq_answer promises catalog)
  rw [hlist]
  refine ⟨Walk.covers_drop ⟨limit, none, false⟩ hlimit own 0 rfl, fun i h => ⟨?_, ?_⟩⟩
  · exact Walk.covers_drop ⟨limit, some _, false⟩ hlimit own (i + 1)
      (Walk.answer_beyond ⟨limit, some _, false⟩ (own i h))
  · have hrest := rest_eq_drop_along .descending h
    rw [Direction.rest] at hrest
    rw [hrest]
    refine Walk.covers_drop ⟨limit, some _, true⟩ hlimit own _ ?_
    refine (Walk.answer_beyond ⟨limit, some _, true⟩ (own i h)).trans ?_
    rw [rest_eq_drop_along _ h]
    rfl

theorem walks_cover_two_rows_and_one_built_in :
    let rows := [(7, "blue"), (3, "amber")]
    (∃ pages, (Walk.mk 2 none false).Covers (list ⟨["dead"]⟩ (.ofRows rows))
      ["amber", "blue", "dead"] pages) ∧
    ∃ pages, (Walk.mk 2 (some "dead") true).Covers (list ⟨["dead"]⟩ (.ofRows rows))
      ["blue", "amber"] pages := by
  intro rows
  have hdistinct : (rows.map Prod.fst).Nodup := by decide
  obtain ⟨hforward, hfrom⟩ := walks_cover_order (promises_ofRows hdistinct) ⟨["dead"]⟩
    (by decide) 2 (by decide)
  exact ⟨hforward, (hfrom 2 (by decide)).2⟩

end MoodStore.Listing
