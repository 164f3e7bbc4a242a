import Mathlib.Data.List.Sort
import MoodStore.Listing.Walk

/-!
The one order of a listing.

A listing shows the rows by ascending place and then the catalog in declaration order. Whatever
dynamic tier keeps its promises, a page is the beginning of what its cursor leaves of this order:
what stands behind the entry that the cursor names, or the reverse of what stands before it.
-/

namespace MoodStore.Listing

variable {π α β : Type}

/-! ### Directions over lists -/

/-- A list as a direction runs through it. -/
def Direction.along (direction : Direction) (entries : List β) : List β :=
  match direction with
  | .ascending => entries
  | .descending => entries.reverse

/-- What lies beyond the entry at an index in a direction. -/
def Direction.rest (direction : Direction) (entries : List β) (index : ℕ) : List β :=
  match direction with
  | .ascending => entries.drop (index + 1)
  | .descending => (entries.take index).reverse

/-- The number of entries that a direction meets before the one at an index. -/
def Direction.turn (direction : Direction) (length index : ℕ) : ℕ :=
  match direction with
  | .ascending => index
  | .descending => length - 1 - index

@[simp] lemma length_along (direction : Direction) (entries : List β) :
    (direction.along entries).length = entries.length := by
  cases direction <;> simp [Direction.along]

lemma map_along (direction : Direction) (f : α → β) (entries : List α) :
    (direction.along entries).map f = direction.along (entries.map f) := by
  cases direction <;> simp [Direction.along]

lemma turn_lt (direction : Direction) {length index : ℕ} (h : index < length) :
    direction.turn length index < length := by
  cases direction <;> simp only [Direction.turn] <;> omega

lemma turn_turn (direction : Direction) {length index : ℕ} (h : index < length) :
    direction.turn length (direction.turn length index) = index := by
  cases direction <;> simp only [Direction.turn]; omega

lemma rest_eq_drop_along (direction : Direction) {entries : List β} {index : ℕ}
    (h : index < entries.length) :
    direction.rest entries index =
      (direction.along entries).drop (direction.turn entries.length index + 1) := by
  cases direction with
  | ascending => rfl
  | descending =>
    simp only [Direction.rest, Direction.along, Direction.turn, List.drop_reverse]
    rw [show entries.length - (entries.length - 1 - index + 1) = index by omega]

lemma getElem_along_turn (direction : Direction) {entries : List β} {index : ℕ}
    (h : index < entries.length)
    (h' : direction.turn entries.length index < (direction.along entries).length) :
    (direction.along entries)[direction.turn entries.length index] = entries[index] := by
  cases direction with
  | ascending => rfl
  | descending =>
    simp only [Direction.along, Direction.turn, List.getElem_reverse]
    congr 1
    omega

/-! ### What a dynamic tier promises -/

section Order

variable [LinearOrder π]

/-- The rows by ascending place. -/
def inOrder (rows : List (π × α)) : List (π × α) := rows.insertionSort fun a b => a.1 ≤ b.1

/-- The place lies strictly beyond an edge in a direction, or there is no edge. -/
def Direction.passes (direction : Direction) (edge? : Option π) (place : π) : Bool :=
  edge?.all fun edge =>
    match direction with
    | .ascending => decide (edge < place)
    | .descending => decide (place < edge)

/-- A dynamic tier shows these rows: their places are distinct, an id that it resolves stands for
the place of a row, and a query gives the first rows strictly beyond the edge in the direction. -/
structure Promises (tier : DynamicTier (Except Error) π α) (rows : List (π × α))
    (live : String → Option π) : Prop where
  distinct : (rows.map Prod.fst).Nodup
  resolve : ∀ id, tier.resolve id = .ok (live id)
  live_mem : ∀ id, ∀ place ∈ live id, place ∈ rows.map Prod.fst
  queryFrom : ∀ edge? direction count, tier.queryFrom edge? direction count =
    .ok ((((direction.along (inOrder rows)).filter fun row => direction.passes edge? row.1).take
      count).map Prod.snd)

@[simp] lemma length_inOrder (rows : List (π × α)) : (inOrder rows).length = rows.length := by
  simp [inOrder]

lemma inOrder_perm (rows : List (π × α)) : (inOrder rows).Perm rows :=
  List.perm_insertionSort _ _

lemma inOrder_pairwise {rows : List (π × α)} (h : (rows.map Prod.fst).Nodup) :
    (inOrder rows).Pairwise fun a b => a.1 < b.1 := by
  have hle : (inOrder rows).Pairwise fun a b => a.1 ≤ b.1 := List.pairwise_insertionSort _ _
  have hne : ((inOrder rows).map Prod.fst).Nodup := ((inOrder_perm rows).map _).nodup_iff.mpr h
  rw [List.nodup_iff_pairwise_ne, List.pairwise_map] at hne
  exact hle.imp₂ (fun _ _ h1 h2 => lt_of_le_of_ne h1 h2) hne

lemma inOrder_eq_self {rows : List (π × α)} (h : rows.Pairwise fun a b => a.1 < b.1) :
    inOrder rows = rows :=
  List.Pairwise.insertionSort_eq (h.imp le_of_lt)

/-- A tier that keeps its rows at hand; an id stands for the first row that has it. -/
def DynamicTier.ofRows [Entry α] (rows : List (π × α)) : DynamicTier (Except Error) π α where
  resolve id := .ok ((rows.find? fun row => Entry.id row.2 = id).map Prod.fst)
  queryFrom edge? direction count :=
    .ok ((((direction.along (inOrder rows)).filter fun row => direction.passes edge? row.1).take
      count).map Prod.snd)

lemma promises_ofRows [Entry α] {rows : List (π × α)} (h : (rows.map Prod.fst).Nodup) :
    Promises (.ofRows rows) rows
      fun id => (rows.find? fun row => Entry.id row.2 = id).map Prod.fst where
  distinct := h
  resolve _ := rfl
  live_mem := by
    intro id place hplace
    obtain ⟨row, hrow, rfl⟩ := Option.mem_map.mp hplace
    exact List.mem_map_of_mem (List.mem_of_find?_eq_some hrow)
  queryFrom _ _ _ := rfl

/-! ### The order, and pages of it -/

/-- All entries: the rows by ascending place, then the catalog in declaration order. -/
def wholeOrder (catalog : Catalog α) (rows : List (π × α)) : List α :=
  (inOrder rows).map Prod.snd ++ catalog.entries

/-- The index in the whole order of the entry that an id stands for: the first entry of the catalog
with the same folded id, else the row that the id resolves to. -/
def indexOf? [Entry α] (catalog : Catalog α) (rows : List (π × α)) (live : String → Option π)
    (id : String) : Option ℕ :=
  match catalog.position? id with
  | some index => some (rows.length + index)
  | none => (live id).bind fun place => (inOrder rows).findIdx? fun row => row.1 = place

/-- The page that shows the beginning of a rest. -/
def Page.ofRest (limit : ℕ) (rest : List α) : Page α :=
  ⟨rest.take limit, decide (limit < rest.length)⟩

/-- The page that a query asks for, of a list whose entries are found by id. -/
def answer (order : List α) (index? : String → Option ℕ) (query : Query) :
    Except Error (Page α) :=
  match query.cursor with
  | none => .ok (.ofRest query.limit order)
  | some cursor =>
    match index? cursor.id with
    | some index => .ok (.ofRest query.limit (cursor.direction.rest order index))
    | none => .error (.cursorNotFound cursor)

/-- The listing shows slices of the whole order, and refuses only a cursor that no tier resolves. -/
structure Slices [Entry α] (ask : Query → Except Error (Page α)) (catalog : Catalog α)
    (rows : List (π × α)) (live : String → Option π) : Prop where
  page : ∀ query, ask query = answer (wholeOrder catalog rows) (indexOf? catalog rows live) query
  refused : ∀ query error, ask query = .error error ↔ ∃ cursor, query.cursor = some cursor ∧
    catalog.position? cursor.id = none ∧ live cursor.id = none ∧ error = .cursorNotFound cursor

/-! ### Rows beyond a place -/

lemma filter_passes_append {front back : List (π × α)} {row : π × α}
    (hs : (front ++ row :: back).Pairwise fun a b => a.1 < b.1) (direction : Direction) :
    ((direction.along (front ++ row :: back)).filter fun r => direction.passes (some row.1) r.1) =
      match direction with
      | .ascending => back
      | .descending => front.reverse := by
  rw [List.pairwise_append, List.pairwise_cons] at hs
  obtain ⟨-, ⟨hback, -⟩, hfront⟩ := hs
  have hfront' : ∀ r ∈ front, r.1 < row.1 := fun r hr => hfront r hr _ List.mem_cons_self
  cases direction with
  | ascending =>
    simp only [Direction.along, Direction.passes, Option.all_some]
    rw [List.filter_append, List.filter_cons_of_neg (by simp),
      List.filter_eq_nil_iff.mpr fun r hr => by simpa using (hfront' r hr).le,
      List.filter_eq_self.mpr fun r hr => by simpa using hback r hr, List.nil_append]
  | descending =>
    simp only [Direction.along, Direction.passes, Option.all_some]
    rw [List.filter_reverse, List.filter_append, List.filter_cons_of_neg (by simp),
      List.filter_eq_self.mpr fun r hr => by simpa using hfront' r hr,
      List.filter_eq_nil_iff.mpr fun r hr => by simpa using (hback r hr).le, List.append_nil]

lemma filter_passes_eq_rest {rows : List (π × α)} (hs : rows.Pairwise fun a b => a.1 < b.1)
    (direction : Direction) {index : ℕ} (h : index < rows.length) :
    ((direction.along rows).filter fun row => direction.passes (some rows[index].1) row.1) =
      direction.rest rows index := by
  have hsplit : rows.take index ++ rows[index] :: rows.drop (index + 1) = rows := by
    rw [List.getElem_cons_drop, List.take_append_drop]
  have hfilter := filter_passes_append (hsplit ▸ hs) direction
  rw [hsplit] at hfilter
  rw [hfilter]
  cases direction <;> rfl

/-! ### Filling a page -/

/-- Everything that lies beyond the start of a visit, in the direction of the walk. -/
def Start.entries (catalog : Catalog α) (rows : List (π × α)) (direction : Direction) :
    Start π → List α
  | .boundary .static => direction.along catalog.entries
  | .beyond (.static index) => direction.rest catalog.entries index
  | .boundary .dynamic => (direction.along (inOrder rows)).map Prod.snd
  | .beyond (.dynamic place) =>
    ((direction.along (inOrder rows)).filter fun row => direction.passes (some place) row.1).map
      Prod.snd

variable {tier : DynamicTier (Except Error) π α} {rows : List (π × α)} {live : String → Option π}

lemma queryTier_eq (promises : Promises tier rows live) (catalog : Catalog α)
    (direction : Direction) (count : ℕ) (start : Start π) :
    queryTier catalog tier direction count start =
      .ok ((start.entries catalog rows direction).take count) := by
  rcases start with (_ | _) | (place | index)
  · simp [queryTier, Start.entries, promises.queryFrom, Direction.passes, List.map_take]
  · cases direction <;> simp [queryTier, Start.entries, Catalog.slice, Direction.along] <;> rfl
  · simp [queryTier, Start.entries, promises.queryFrom, List.map_take]
  · cases direction <;> simp [queryTier, Start.entries, Catalog.slice, Direction.rest] <;> rfl

/-- A page is filled with what the visits see, one visit after the other. -/
lemma fill_eq (promises : Promises tier rows live) (catalog : Catalog α) (direction : Direction)
    (limit : ℕ) (starts : List (Start π)) (items : List α) (h : items.length ≤ limit) :
    fill catalog tier direction limit items starts =
      .ok (.ofRest limit (items ++ starts.flatMap (Start.entries catalog rows direction))) := by
  induction starts generalizing items with
  | nil =>
    have hlimit : ¬ limit < items.length := by omega
    simp only [fill, Page.ofRest, List.flatMap_nil, List.append_nil, List.take_of_length_le h,
      hlimit, decide_false]
    rfl
  | cons start starts ih =>
    set seen := start.entries catalog rows direction with hseen
    have hquery := queryTier_eq promises catalog direction (limit - items.length + 1) start
    rw [← hseen] at hquery
    -- one entry more than fits is asked for, which tells whether the tier has more
    by_cases hmore : limit - items.length < (seen.take (limit - items.length + 1)).length
    · have hlong : limit - items.length < seen.length := by
        rw [List.length_take] at hmore; omega
      have htake : (seen.take (limit - items.length + 1)).take (limit - items.length) =
          seen.take (limit - items.length) := by
        rw [List.take_take]; congr 1; omega
      have hrest : limit < (items ++ (seen ++
          starts.flatMap (Start.entries catalog rows direction))).length := by
        simp only [List.length_append]; omega
      simp only [fill, hquery, Except.bind, bind, hmore, if_true, htake, List.flatMap_cons,
        ← hseen, Page.ofRest, hrest, decide_true]
      rw [List.take_append, List.take_of_length_le h,
        List.take_append_of_le_length (by omega)]
      rfl
    · have hshort : seen.length ≤ limit - items.length := by
        rw [List.length_take] at hmore; omega
      have htake : seen.take (limit - items.length + 1) = seen :=
        List.take_of_length_le (by omega)
      rw [htake] at hquery hmore
      simp only [fill, hquery, Except.bind, bind, hmore, if_false]
      rw [ih (items ++ seen) (by rw [List.length_append]; omega), List.flatMap_cons, ← hseen,
        List.append_assoc]

lemma flatMap_edgeStarts (catalog : Catalog α) (direction : Direction) :
    (edgeStarts direction).flatMap (Start.entries catalog rows direction) =
      direction.along (wholeOrder catalog rows) := by
  cases direction <;>
    simp [edgeStarts, Direction.tiers, Start.entries, Direction.along, wholeOrder]

lemma flatMap_beyondStarts_static (catalog : Catalog α) (direction : Direction) (index : ℕ) :
    (beyondStarts direction (.static index)).flatMap (Start.entries catalog rows direction) =
      direction.rest (wholeOrder catalog rows) (rows.length + index) := by
  have hlen : rows.length = ((inOrder rows).map Prod.snd).length := by simp
  cases direction with
  | ascending =>
    have hstarts : beyondStarts (π := π) .ascending (.static index) =
        [.beyond (.static index)] := rfl
    rw [hstarts, List.flatMap_singleton]
    simp only [Start.entries, Direction.rest, wholeOrder]
    rw [hlen, Nat.add_assoc, List.drop_length_add_append]
  | descending =>
    have hstarts : beyondStarts (π := π) .descending (.static index) =
        [.beyond (.static index), .boundary .dynamic] := rfl
    rw [hstarts, List.flatMap_cons, List.flatMap_singleton]
    simp only [Start.entries, Direction.rest, Direction.along, wholeOrder]
    rw [hlen, List.take_length_add_append, List.reverse_append, List.map_reverse]

lemma flatMap_beyondStarts_dynamic (hd : (rows.map Prod.fst).Nodup) (catalog : Catalog α)
    (direction : Direction) {index : ℕ} (h : index < (inOrder rows).length) :
    (beyondStarts direction (.dynamic (inOrder rows)[index].1)).flatMap
        (Start.entries catalog rows direction) =
      direction.rest (wholeOrder catalog rows) index := by
  have hrest := filter_passes_eq_rest (inOrder_pairwise hd) direction h
  cases direction with
  | ascending =>
    have hstarts : ∀ place : π, beyondStarts .ascending (.dynamic place) =
        [.beyond (.dynamic place), .boundary .static] := fun _ => rfl
    rw [hstarts, List.flatMap_cons, List.flatMap_singleton]
    simp only [Start.entries, hrest]
    simp only [Direction.rest, Direction.along, wholeOrder]
    rw [List.drop_append_of_le_length (by simpa using Nat.succ_le_of_lt h), List.map_drop]
  | descending =>
    have hstarts : ∀ place : π, beyondStarts .descending (.dynamic place) =
        [.beyond (.dynamic place)] := fun _ => rfl
    rw [hstarts, List.flatMap_singleton]
    simp only [Start.entries, hrest]
    simp only [Direction.rest, wholeOrder]
    rw [List.take_append_of_le_length (by simpa using h.le), List.map_reverse, List.map_take]

/-! ### Pages of the order -/

lemma findIdx?_place {place : π} (h : place ∈ rows.map Prod.fst) :
    ∃ index, ∃ h : index < (inOrder rows).length, (inOrder rows)[index].1 = place ∧
      (inOrder rows).findIdx? (fun row => row.1 = place) = some index := by
  obtain ⟨row, hrow, rfl⟩ := List.mem_map.mp h
  obtain ⟨index, hindex⟩ : ∃ index,
      (inOrder rows).findIdx? (fun r => r.1 = row.1) = some index := by
    rw [← Option.isSome_iff_exists, List.findIdx?_isSome, List.any_eq_true]
    exact ⟨row, (inOrder_perm rows).mem_iff.mpr hrow, by simp⟩
  obtain ⟨hlt, hfound, -⟩ := List.findIdx?_eq_some_iff_getElem.mp hindex
  exact ⟨index, hlt, by simpa using hfound, hindex⟩

lemma answer_eq_error_iff {order : List α} {index? : String → Option ℕ} {query : Query}
    {error : Error} :
    answer order index? query = .error error ↔
      ∃ cursor, query.cursor = some cursor ∧ index? cursor.id = none ∧
        error = .cursorNotFound cursor := by
  obtain ⟨_ | cursor, limit⟩ := query
  · simp [answer]
  · cases hindex : index? cursor.id with
    | some index => simp [answer, hindex]
    | none => simp [answer, hindex, eq_comm]

lemma mem_of_answer {order : List α} {index? : String → Option ℕ} {query : Query}
    {page : Page α} (h : answer order index? query = .ok page) {item : α}
    (hitem : item ∈ page.items) : item ∈ order := by
  obtain ⟨_ | cursor, limit⟩ := query
  · obtain rfl := Except.ok.inj h
    exact List.mem_of_mem_take hitem
  · cases hindex : index? cursor.id with
    | none =>
      simp only [answer, hindex] at h
      cases h
    | some index =>
      simp only [answer, hindex] at h
      obtain rfl := Except.ok.inj h
      have hrest : item ∈ cursor.direction.rest order index := List.mem_of_mem_take hitem
      cases hdirection : cursor.direction with
      | ascending =>
        rw [hdirection] at hrest
        exact List.mem_of_mem_drop hrest
      | descending =>
        rw [hdirection] at hrest
        exact List.mem_of_mem_take (List.mem_reverse.mp hrest)

variable [Entry α]

/-- **A page is a slice of the whole order.** The one refusal is that of a cursor whose id stands
for nothing. -/
theorem list_eq_answer (promises : Promises tier rows live) (catalog : Catalog α)
    (query : Query) :
    list catalog tier query =
      answer (wholeOrder catalog rows) (indexOf? catalog rows live) query := by
  obtain ⟨_ | cursor, limit⟩ := query
  · have hfill := fill_eq promises catalog .ascending limit (edgeStarts .ascending) [] (by simp)
    rw [flatMap_edgeStarts] at hfill
    exact hfill
  · simp only [list, answer, indexOf?, resolveCursor]
    cases hstatic : catalog.position? cursor.id with
    | some index =>
      have hfill := fill_eq promises catalog cursor.direction limit
        (beyondStarts cursor.direction (.static index)) [] (by simp)
      rw [flatMap_beyondStarts_static] at hfill
      exact hfill
    | none =>
      simp only [promises.resolve]
      cases hlive : live cursor.id with
      | none => rfl
      | some place =>
        obtain ⟨index, hlt, hplace, hindex⟩ :=
          findIdx?_place (promises.live_mem cursor.id place hlive)
        have hfill := fill_eq promises catalog cursor.direction limit
          (beyondStarts cursor.direction (.dynamic (inOrder rows)[index].1)) [] (by simp)
        rw [flatMap_beyondStarts_dynamic promises.distinct, hplace] at hfill
        simp only [Option.bind_some, hindex]
        exact hfill

lemma indexOf?_eq_none_iff (promises : Promises tier rows live) (catalog : Catalog α)
    (id : String) :
    indexOf? catalog rows live id = none ↔ catalog.position? id = none ∧ live id = none := by
  unfold indexOf?
  cases catalog.position? id with
  | some index => simp
  | none =>
    cases hlive : live id with
    | none => simp
    | some place =>
      obtain ⟨index, -, -, hindex⟩ := findIdx?_place (promises.live_mem id place hlive)
      simp [hindex]

/-- **A listing over a tier that keeps its promises shows slices of the whole order.** -/
lemma Promises.slices (promises : Promises tier rows live) (catalog : Catalog α) :
    Slices (list catalog tier) catalog rows live where
  page := list_eq_answer promises catalog
  refused := by
    intro query error
    rw [list_eq_answer promises, answer_eq_error_iff]
    simp only [indexOf?_eq_none_iff promises, and_assoc]

end Order

end MoodStore.Listing
