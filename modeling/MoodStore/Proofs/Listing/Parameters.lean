import MoodStore.Proofs.Listing.Shadows

/-!
Paging by request parameters.

A client hands the last cursor of a page back as a request parameter, and an empty parameter counts
as missing. So the client goes on behind every entry but one with an empty id. From that one it
comes back to the first page; it meets the same pages again, and never ends.
-/

namespace MoodStore.Listing

variable {π α σ : Type}

/-! ### Last cursors as parameters -/

namespace Query

/-- The query of a last cursor that is handed back as a request parameter. -/
def resumed (limit : ℕ) (id : String) : Query := ⟨(given (some id)).map .after, limit⟩

lemma resumed_empty (limit : ℕ) : resumed limit "" = .first limit := rfl

lemma resumed_of_ne {id : String} (h : id ≠ "") (limit : ℕ) :
    resumed limit id = .after id limit := by
  simp [resumed, given, h, after]

variable {after? before? : Option String} {limit? : Option ℕ}

lemma ofParams_last (h : limit?.getD defaultLimit ≤ maxLimit) (id : String) :
    ofParams (some id) none limit? = .ok (resumed (limit?.getD defaultLimit) id) := by
  have hbefore : given none = none := rfl
  unfold ofParams resumed
  rw [hbefore]
  cases given (some id) <;> simp only [if_neg (Nat.not_lt.mpr h)] <;> rfl

lemma limit_of_ofParams {query : Query} (h : ofParams after? before? limit? = .ok query) :
    query.limit = limit?.getD defaultLimit := by
  revert h
  unfold ofParams
  by_cases hsize : maxLimit < limit?.getD defaultLimit
  · simp only [if_pos hsize]
    cases given after? <;> cases given before? <;> rintro ⟨⟩
  · simp only [if_neg hsize]
    cases given after? <;> cases given before? <;> rintro ⟨⟩ <;> rfl

end Query

/-! ### Forward pages of a list -/

lemma ofRest_drop_of_answer {order : List α} {index? : String → Option ℕ} {query : Query}
    {page : Page α} (h : answer order index? query = .ok page)
    (forward : query.direction = .ascending) :
    ∃ start, page = .ofRest query.limit (order.drop start) := by
  obtain ⟨_ | cursor, limit⟩ := query
  · exact ⟨0, (Except.ok.inj h).symm⟩
  · cases hindex : index? cursor.id with
    | none =>
      simp only [answer, hindex] at h
      cases h
    | some index =>
      have hdirection : cursor.direction = .ascending := forward
      simp only [answer, hindex, hdirection] at h
      exact ⟨index + 1, (Except.ok.inj h).symm⟩

variable [Entry α]

/-- More follows, and the last item has an empty id. -/
def Page.EndsUnnamed (page : Page α) : Prop :=
  page.hasMore = true ∧ page.lastCursor = some ""

/-- What a client sees of a list that hands last cursors back as request parameters: behind each
page that has more, the rest of the list, and so all pages that the list is cut into. But a last
item with an empty id leads to the first page again, and then there is no end. -/
structure Resumes (ask : Query → StateM σ (Except Error (Page α))) (s : σ) (order : List α)
    (limit? : Option ℕ) : Prop where
  accepted : ∀ id, Query.ofParams (some id) none limit? =
    .ok (.resumed (limit?.getD Query.defaultLimit) id)
  next : ∀ after? before? query page, Query.ofParams after? before? limit? = .ok query →
    query.direction = .ascending → (ask query s).1 = .ok page → page.hasMore = true →
    ∃ shown last rest, order = shown ++ last :: rest ∧ rest ≠ [] ∧
      page.items.getLast? = some last ∧ page.lastCursor = some (Entry.id last) ∧
      ask (.resumed query.limit (Entry.id last)) s =
        (.ok (.ofRest query.limit (if Entry.id last = "" then order else rest)), s)
  walks : let limit := limit?.getD Query.defaultLimit
    ∃ pages, Cut limit order pages ∧
      ((∀ page ∈ pages, ¬page.EndsUnnamed) → ∀ most, pages.length ≤ most →
        follow ask (.resumed limit) most (.first limit) s = ((pages, none), s)) ∧
      ((∃ page ∈ pages, page.EndsUnnamed) → ∀ most, ∃ shown,
        follow ask (.resumed limit) most (.first limit) s = ((shown, none), s) ∧
          shown.length = most ∧ ∀ page ∈ shown, page.hasMore = true)

section Walk

variable {ask : Query → StateM σ (Except Error (Page α))} {s : σ} {order : List α} {limit : ℕ}
  (hlimit : 0 < limit)
  (hnext : ∀ i (h : i < order.length), ask (.resumed limit (Entry.id order[i])) s =
    (.ok (.ofRest limit (if Entry.id order[i] = "" then order else order.drop (i + 1))), s))

include hlimit hnext

/-- Once a page that has more ends with an empty id, following never ends: at each page such a page
is still ahead. -/
lemma follow_unnamed {pages : List (Page α)} (whole : Cut limit order pages)
    (unnamed : ∃ page ∈ pages, page.EndsUnnamed) (most start : ℕ) {query : Query}
    {ahead : List (Page α)} (cut : Cut limit (order.drop start) ahead)
    (still : ∃ page ∈ ahead, page.EndsUnnamed)
    (hask : ask query s = (.ok (.ofRest limit (order.drop start)), s)) :
    ∃ shown, follow ask (.resumed limit) most query s = ((shown, none), s) ∧
      shown.length = most ∧ ∀ page ∈ shown, page.hasMore = true := by
  induction most generalizing start query ahead with
  | zero => exact ⟨[], rfl, rfl, by simp⟩
  | succ most ih =>
    cases cut with
    | last fits =>
      obtain ⟨page, hpage, hmore, -⟩ := still
      rw [List.mem_singleton.mp hpage] at hmore
      cases hmore
    | @more _ later exceeds cut =>
      have hlength : start + limit < order.length := by
        rw [List.length_drop] at exceeds
        omega
      have hlast := lastCursor_take_drop hlimit order start true (by omega)
      have hanswer := hnext (start + limit - 1) (by omega)
      have hstart : start + limit - 1 + 1 = start + limit := by omega
      rw [hstart] at hanswer
      rw [Page.ofRest_of_exceeds exceeds] at hask
      obtain ⟨shown, hrun, hcount, hmore⟩ : ∃ shown, follow ask (.resumed limit) most
          (.resumed limit (Entry.id order[start + limit - 1])) s = ((shown, none), s) ∧
            shown.length = most ∧ ∀ page ∈ shown, page.hasMore = true := by
        by_cases hid : Entry.id order[start + limit - 1] = ""
        · -- the first page again, and with it the whole list ahead
          rw [if_pos hid] at hanswer
          exact ih 0 whole unnamed hanswer
        · rw [if_neg hid] at hanswer
          rw [List.drop_drop] at cut
          refine ih (start + limit) cut ?_ hanswer
          obtain ⟨page, hpage, hunnamed⟩ := still
          rcases List.mem_cons.mp hpage with rfl | hlater
          · exact absurd (Option.some_inj.mp (hlast.symm.trans hunnamed.2)) hid
          · exact ⟨page, hlater, hunnamed⟩
      exact ⟨_, follow_more hask rfl hlast hrun, congrArg Nat.succ hcount,
        List.forall_mem_cons.mpr ⟨rfl, hmore⟩⟩

end Walk

section Own

variable {ask : Query → StateM σ (Except Error (Page α))} {s : σ} {order : List α}
  {index? : String → Option ℕ}
  (own : ∀ i (h : i < order.length), index? (Entry.id order[i]) = some i)
  (answers : ∀ query page, answer order index? query = .ok page → ask query s = (.ok page, s))

include own answers

lemma ask_resumed (limit i : ℕ) (h : i < order.length) :
    ask (.resumed limit (Entry.id order[i])) s =
      (.ok (.ofRest limit (if Entry.id order[i] = "" then order else order.drop (i + 1))), s) := by
  refine answers _ _ ?_
  by_cases hid : Entry.id order[i] = ""
  · rw [if_pos hid, hid, Query.resumed_empty]
    rfl
  · rw [if_neg hid, Query.resumed_of_ne hid]
    simp only [answer, Query.after, Cursor.id, own i h, Cursor.direction, Direction.rest]

lemma split_of_hasMore {query : Query} (hlimit : 0 < query.limit)
    (forward : query.direction = .ascending) {page : Page α}
    (hpage : answer order index? query = .ok page) (hmore : page.hasMore = true) :
    ∃ shown last rest, order = shown ++ last :: rest ∧ rest ≠ [] ∧
      page.items.getLast? = some last ∧ page.lastCursor = some (Entry.id last) ∧
      ask (.resumed query.limit (Entry.id last)) s =
        (.ok (.ofRest query.limit (if Entry.id last = "" then order else rest)), s) := by
  obtain ⟨start, rfl⟩ := ofRest_drop_of_answer hpage forward
  have exceeds : query.limit < (order.drop start).length := of_decide_eq_true hmore
  rw [List.length_drop] at exceeds
  have hlt : start + query.limit - 1 < order.length := by omega
  have hlast := getLast?_take_drop hlimit order start hlt
  refine ⟨order.take (start + query.limit - 1), order[start + query.limit - 1],
    order.drop (start + query.limit - 1 + 1), ?_, ?_, hlast, congrArg (Option.map Entry.id) hlast,
    ask_resumed own answers query.limit _ hlt⟩
  · rw [List.getElem_cons_drop, List.take_append_drop]
  · rw [ne_eq, List.drop_eq_nil_iff]
    omega

/-- **Clients go on behind all but empty ids.** This holds of any list whose entries are found by
their own ids. -/
lemma resumes (answered : ∀ query page, (ask query s).1 = .ok page →
      answer order index? query = .ok page)
    {limit? : Option ℕ} (hlimit : 0 < limit?.getD Query.defaultLimit)
    (hmax : limit?.getD Query.defaultLimit ≤ Query.maxLimit) : Resumes ask s order limit? where
  accepted := Query.ofParams_last hmax
  next after? before? query page hparams forward hpage hmore := by
    rw [← Query.limit_of_ofParams hparams] at hlimit
    exact split_of_hasMore own answers hlimit forward (answered query page hpage) hmore
  walks := by
    have hnext := ask_resumed own answers (limit?.getD Query.defaultLimit)
    have hfirst := answers (.first (limit?.getD Query.defaultLimit)) _ rfl
    obtain ⟨pages, cut⟩ := exists_cut hlimit order
    refine ⟨pages, cut, fun named most hmost => ?_, fun unnamed most =>
      follow_unnamed hlimit hnext cut unnamed most 0 cut unnamed hfirst⟩
    refine follow_cut hlimit (· ≠ "") (fun i h hid => ?_) cut ?_ 0 most _ rfl hfirst hmost
    · rw [hnext i h, if_neg hid]
    · rintro page hpage hmore id hid rfl
      exact named page hpage ⟨hmore, hid⟩

end Own

/-! ### Listings without shadowed rows -/

lemma Settled.indexOf?_own [LinearOrder π] {catalog : Catalog α} {rows : List (π × α)}
    {live : String → Option π} (settled : Settled catalog rows live)
    (unshadowed : ∀ row ∈ rows, catalog.position? (Entry.id row.2) = none) (i : ℕ)
    (h : i < (wholeOrder catalog rows).length) :
    indexOf? catalog rows live (Entry.id (wholeOrder catalog rows)[i]) = some i := by
  have hlt : i < (marked catalog rows).length := by
    rwa [← map_snd_marked, List.length_map] at h
  have hitem : (wholeOrder catalog rows)[i] = (marked catalog rows)[i].2 := by
    simp [← map_snd_marked]
  have hentry := List.getElem_mem hlt
  have hown : landing catalog (marked catalog rows)[i] = (marked catalog rows)[i].1 := by
    refine (settled.landing_cases hentry).resolve_right ?_
    rintro ⟨row, index, hrow, hindex, -⟩
    have hmem : (.dynamic row, (marked catalog rows)[i].2) ∈ marked catalog rows := hrow ▸ hentry
    rw [unshadowed _ (dynamic_mem_marked.mp hmem)] at hindex
    cases hindex
  obtain ⟨index, hlt', hindex, hplace⟩ :=
    exists_index settled.live_mem (settled.placeOf?_own hentry)
  rw [hown] at hplace
  have hnodup := (nodup_places_marked catalog settled.distinct).of_map
  have hsame : index = i := hnodup.getElem_inj_iff.mp
    (entry_unique settled.distinct (List.getElem_mem hlt') hentry hplace)
  rw [hitem, hindex, hsame]

end MoodStore.Listing
