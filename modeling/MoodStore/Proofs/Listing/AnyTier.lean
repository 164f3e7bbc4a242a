import Mathlib.Data.List.Basic
import Mathlib.Tactic.Common
import MoodStore.Listing.Tiered
import MoodStore.Proofs.Catalog

/-!
Pages over a dynamic tier that keeps no promise.

The engine relies on nothing that the tier should do. A tier may give more rows than it is asked
for, in any order, or fail at any question: the room left on a page is never negative, no page holds
more than its limit, the tier is asked each of its questions at most once, and nothing after its
first error.
-/

namespace MoodStore

/-!
### Recorded actions

A procedure that is given its actions from outside can be run on actions that also write down what
they answer. The record then shows which of them it ran, in which order, and what came of each; the
state underneath does not see the record.
-/

section Recording

variable {σ κ α : Type}

/-- The action, which also appends an entry with its answer to a record. -/
def recording (entry : α → κ) (action : StateM σ α) : StateM (σ × List κ) α := fun (s, record) =>
  let (answer, left) := action s
  (answer, left, record ++ [entry answer])

@[simp] theorem recording_apply (entry : α → κ) (action : StateM σ α) (s : σ) (record : List κ) :
    recording entry action (s, record) =
      ((action s).1, (action s).2, record ++ [entry (action s).1]) := rfl

end Recording

namespace Listing

variable {σ π α : Type}

/-! ### What a tier is asked -/

inductive Asked (π α : Type) where
  | resolve (id : String) (answer : Except Error (Option π))
  | queryFrom (from? : Option π) (direction : Direction) (count : ℕ)
    (answer : Except Error (List α))

namespace Asked

def error? : Asked π α → Option Error
  | resolve _ (.error error) => some error
  | queryFrom _ _ _ (.error error) => some error
  | _ => none

def isResolve : Asked π α → Bool
  | resolve .. => true
  | queryFrom .. => false

def isQuery : Asked π α → Bool
  | resolve .. => false
  | queryFrom .. => true

end Asked

/-- The tier, which also writes down what it is asked and what it answers. -/
def DynamicTier.recorded (tier : DynamicTier (ExceptT Error (StateM σ)) π α) :
    DynamicTier (ExceptT Error (StateM (σ × List (Asked π α)))) π α where
  resolve id := ExceptT.mk (recording (.resolve id) (tier.resolve id).run)
  queryFrom from? direction count :=
    ExceptT.mk (recording (.queryFrom from? direction count)
      (tier.queryFrom from? direction count).run)

/-- Where a visit to the dynamic tier begins there. A visit to the catalog has no such place. -/
def Start.edge? : Start π → Option (Option π)
  | .boundary .dynamic => some none
  | .beyond (.dynamic place) => some (some place)
  | .boundary .static => none
  | .beyond (.static _) => none

/-- What a visit asks the dynamic tier. -/
def Start.asked (start : Start π) (direction : Direction) (count : ℕ)
    (answer : Except Error (List α)) : List (Asked π α) :=
  start.edge?.toList.map fun from? => .queryFrom from? direction count answer

def Start.isDynamic (start : Start π) : Bool := start.edge?.isSome

lemma length_asked (start : Start π) (direction : Direction) (count : ℕ)
    (answer : Except Error (List α)) :
    (start.asked direction count answer).length = if start.isDynamic then 1 else 0 := by
  unfold Start.asked Start.isDynamic
  cases start.edge? <;> rfl

lemma isQuery_of_mem_asked {start : Start π} {direction : Direction} {count : ℕ}
    {answer : Except Error (List α)} :
    ∀ call ∈ start.asked direction count answer, call.isQuery = true := by
  intro call hcall
  obtain ⟨from?, -, rfl⟩ := List.mem_map.mp hcall
  rfl

/-! ### The room that is left on a page -/

section Checked

variable {m : Type → Type} [Monad m]

/-- Fills a page, and gives up as soon as it holds more than its limit. -/
def fillChecked (catalog : Catalog α) (rows : DynamicTier m π α) (direction : Direction)
    (limit : ℕ) (items : List α) : List (Start π) → m (Option (Page α))
  | [] => pure (some ⟨items, false⟩)
  | start :: starts =>
    if limit < items.length then pure none
    else do
      let room := limit - items.length
      let fetched ← queryTier catalog rows direction (room + 1) start
      if room < fetched.length then pure (some ⟨items ++ fetched.take room, true⟩)
      else fillChecked catalog rows direction limit (items ++ fetched) starts

/-- One page across both tiers, or nothing if a page ever held more than its limit. -/
def listChecked [MonadExceptOf Error m] [Entry α] (catalog : Catalog α) (rows : DynamicTier m π α)
    (query : Query) : m (Option (Page α)) := do
  let starts ← match query.cursor with
    | some cursor => do
      let position ← resolveCursor catalog rows cursor
      pure (beyondStarts query.direction position)
    | none => pure (edgeStarts query.direction)
  fillChecked catalog rows query.direction query.limit [] starts

variable [LawfulMonad m] (catalog : Catalog α) (rows : DynamicTier m π α)

lemma fillChecked_eq (direction : Direction) (limit : ℕ) (starts : List (Start π)) (items : List α)
    (h : items.length ≤ limit) :
    fillChecked catalog rows direction limit items starts =
      some <$> fill catalog rows direction limit items starts := by
  induction starts generalizing items with
  | nil => simp [fillChecked, fill]
  | cons start starts ih =>
    simp only [fillChecked, fill, if_neg (Nat.not_lt.mpr h), map_bind]
    refine bind_congr fun fetched => ?_
    split
    · simp
    · exact ih _ (by rw [List.length_append]; omega)

lemma listChecked_eq [MonadExceptOf Error m] [Entry α] (query : Query) :
    listChecked catalog rows query = some <$> list catalog rows query := by
  have hfill : ∀ starts : List (Start π),
      fillChecked catalog rows query.direction query.limit [] starts =
        some <$> fill catalog rows query.direction query.limit [] starts :=
    fun starts => fillChecked_eq catalog rows _ _ starts [] (Nat.zero_le _)
  unfold listChecked list
  cases query.cursor <;> simp [hfill]

end Checked

/-! ### Visits -/

/-- What holds of some questions to a tier and of what comes of them, a page of at most `limit`
items or an error. The first error that the tier gives is the outcome, and nothing is asked after
it. -/
structure Guarded (limit : ℕ) (asked : List (Asked π α)) (outcome : Except Error (Page α)) :
    Prop where
  fits : ∀ page, outcome = .ok page → page.items.length ≤ limit
  full : ∀ page, outcome = .ok page → page.hasMore = true → page.items.length = limit
  counts : ∀ from? direction count answer, .queryFrom from? direction count answer ∈ asked →
    1 ≤ count ∧ count ≤ limit + 1
  stops : ∀ earlier call later error, asked = earlier ++ call :: later →
    call.error? = some error → later = [] ∧ outcome = .error error

namespace Guarded

variable {limit : ℕ} {asked : List (Asked π α)} {outcome : Except Error (Page α)}

lemma page {page : Page α} (fits : page.items.length ≤ limit)
    (full : page.hasMore = true → page.items.length = limit) :
    Guarded limit ([] : List (Asked π α)) (.ok page) where
  fits := by rintro _ ⟨⟩; exact fits
  full := by rintro _ ⟨⟩; exact full
  counts := by simp
  stops := by simp

lemma refused (error : Error) : Guarded limit ([] : List (Asked π α)) (.error error) where
  fits := by rintro _ ⟨⟩
  full := by rintro _ ⟨⟩
  counts := by simp
  stops := by simp

lemma cons {call : Asked π α} (hcount : ∀ from? direction count answer,
      call = .queryFrom from? direction count answer → 1 ≤ count ∧ count ≤ limit + 1)
    (hanswered : call.error? = none) (h : Guarded limit asked outcome) :
    Guarded limit (call :: asked) outcome where
  fits := h.fits
  full := h.full
  counts from? direction count answer hmem := by
    rcases List.mem_cons.mp hmem with hcall | hmem
    · exact hcount _ _ _ _ hcall.symm
    · exact h.counts _ _ _ _ hmem
  stops := by
    intro earlier failing later error hsplit herror
    cases earlier with
    | nil =>
      obtain ⟨rfl, -⟩ := List.cons.inj hsplit
      rw [hanswered] at herror
      cases herror
    | cons first earlier =>
      exact h.stops earlier failing later error (List.cons.inj hsplit).2 herror

lemma failed {call : Asked π α} {error : Error} (hcount : ∀ from? direction count answer,
      call = .queryFrom from? direction count answer → 1 ≤ count ∧ count ≤ limit + 1)
    (herror : call.error? = some error) : Guarded limit [call] (.error error) where
  fits := by rintro _ ⟨⟩
  full := by rintro _ ⟨⟩
  counts from? direction count answer hmem :=
    hcount _ _ _ _ (List.mem_singleton.mp hmem).symm
  stops := by
    intro earlier failing later error' hsplit herror'
    cases earlier with
    | nil =>
      obtain ⟨rfl, rfl⟩ := List.cons.inj hsplit
      rw [herror, Option.some_inj] at herror'
      rw [herror']
      exact ⟨rfl, rfl⟩
    | cons first earlier => simp at hsplit

variable (start : Start π) (direction : Direction) {room : ℕ} (hroom : room ≤ limit)

include hroom

lemma visited (fetched : List α) (h : Guarded limit asked outcome) :
    Guarded limit (start.asked direction (room + 1) (.ok fetched) ++ asked) outcome := by
  unfold Start.asked
  cases start.edge? with
  | none => exact h
  | some edge? =>
    refine h.cons (fun _ _ _ _ hcall => ?_) rfl
    cases hcall
    omega

lemma visit_failed (error : Error) : Guarded limit
    (start.asked direction (room + 1) (.error error) : List (Asked π α)) (.error error) := by
  unfold Start.asked
  cases start.edge? with
  | none => exact .refused error
  | some edge? =>
    refine .failed (fun _ _ _ _ hcall => ?_) rfl
    cases hcall
    omega

end Guarded

section Visits

variable (catalog : Catalog α) (tier : DynamicTier (ExceptT Error (StateM σ)) π α)
  (direction : Direction)

lemma queryTier_recorded (count : ℕ) (start : Start π) (s : σ) (record : List (Asked π α)) :
    queryTier catalog tier.recorded direction count start (s, record) =
      let (answer, left) := queryTier catalog tier direction count start s
      (answer, left, record ++ start.asked direction count answer) := by
  rcases start with (_ | _) | (place | index)
  · rfl
  · simp only [Start.asked, Start.edge?, Option.toList_none, List.map_nil, List.append_nil]
    rfl
  · rfl
  · simp only [Start.asked, Start.edge?, Option.toList_none, List.map_nil, List.append_nil]
    rfl

lemma fill_cons_apply {limit : ℕ} {items : List α} (start : Start π) (starts : List (Start π))
    (s : σ) :
    fill catalog tier direction limit items (start :: starts) s =
      match queryTier catalog tier direction (limit - items.length + 1) start s with
      | (.error error, left) => (.error error, left)
      | (.ok fetched, left) =>
        if limit - items.length < fetched.length then
          (.ok ⟨items ++ fetched.take (limit - items.length), true⟩, left)
        else fill catalog tier direction limit (items ++ fetched) starts left := by
  simp only [fill, bind, ExceptT.bind, ExceptT.mk, StateT.bind]
  rcases queryTier catalog tier direction (limit - items.length + 1) start s with
    ⟨_ | fetched, left⟩
  · rfl
  · simp only [ExceptT.bindCont]
    split <;> rfl

/-- Whatever the tier answers, a page that is filled from some visits is guarded, and the tier is
asked at most once for each visit to it. -/
lemma fill_guarded {limit : ℕ} (starts : List (Start π)) {items : List α}
    (h : items.length ≤ limit) (s : σ) (record : List (Asked π α)) :
    let plain := fill catalog tier direction limit items starts s
    ∃ asked, Guarded limit asked plain.1 ∧ asked.length ≤ starts.countP Start.isDynamic ∧
      (∀ call ∈ asked, call.isQuery = true) ∧
      fill catalog tier.recorded direction limit items starts (s, record) =
        (plain.1, plain.2, record ++ asked) := by
  induction starts generalizing items s record with
  | nil =>
    refine ⟨[], .page h (by rintro ⟨⟩), Nat.zero_le _, by simp, ?_⟩
    rw [List.append_nil]
    rfl
  | cons start starts ih =>
    have hroom : limit - items.length ≤ limit := Nat.sub_le _ _
    simp only [fill_cons_apply, queryTier_recorded, List.countP_cons]
    rcases queryTier catalog tier direction (limit - items.length + 1) start s with
      ⟨error | fetched, left⟩
    · refine ⟨_, .visit_failed start direction hroom error, ?_, isQuery_of_mem_asked, rfl⟩
      rw [length_asked]
      omega
    · simp only
      split
      case isTrue hmore =>
        -- the page is full, so the other tier is not visited
        have hlength : (items ++ fetched.take (limit - items.length)).length = limit := by
          rw [List.length_append, List.length_take]
          omega
        have hpage : Guarded limit ([] : List (Asked π α))
            (.ok ⟨items ++ fetched.take (limit - items.length), true⟩) :=
          .page (Nat.le_of_eq hlength) fun _ => hlength
        refine ⟨_, hpage.visited start direction hroom fetched, ?_,
          by simpa using isQuery_of_mem_asked, by rw [List.append_nil]⟩
        rw [List.append_nil, length_asked]
        omega
      case isFalse hfits =>
        have hlength : (items ++ fetched).length ≤ limit := by
          rw [List.length_append]
          omega
        obtain ⟨asked, guarded, hcount, hqueries, hrun⟩ := ih hlength left
          (record ++ start.asked direction (limit - items.length + 1) (.ok fetched))
        refine ⟨_, guarded.visited start direction hroom fetched, ?_, ?_, ?_⟩
        · rw [List.length_append, length_asked]
          omega
        · intro call hcall
          rcases List.mem_append.mp hcall with hcall | hcall
          · exact isQuery_of_mem_asked call hcall
          · exact hqueries call hcall
        · rw [hrun, List.append_assoc]

lemma fill_of_full {limit index : ℕ} (starts : List (Start π)) (s : σ)
    (h : limit < (catalog.slice (some index) direction (limit + 1)).length) :
    ∃ page, fill catalog tier direction limit [] (.beyond (.static index) :: starts) s =
      (.ok page, s) := by
  rw [fill_cons_apply]
  have hquery : queryTier catalog tier direction (limit - List.length ([] : List α) + 1)
      (.beyond (.static index)) s =
        (.ok (catalog.slice (some index) direction (limit + 1)), s) := rfl
  rw [hquery]
  exact ⟨_, if_pos h⟩

end Visits

/-! ### Whole pages -/

/-- What holds of the questions that a query asks the tier, and of its outcome. Nothing is asked
where the built-in entries say it all: behind one of them there are no rows, and before one of them
they may fill the page and more. -/
structure Safe [Entry α] (catalog : Catalog α) (query : Query) (asked : List (Asked π α))
    (outcome : Except Error (Page α)) : Prop extends Guarded query.limit asked outcome where
  resolves : ∀ id answer, .resolve id answer ∈ asked → ∃ cursor, query.cursor = some cursor ∧
    cursor.id = id ∧ catalog.position? id = none
  resolvesOnce : asked.countP Asked.isResolve ≤ 1
  queriesOnce : asked.countP Asked.isQuery ≤ 1
  afterBuiltin : ∀ id index, query.cursor = some (.after id) →
    catalog.position? id = some index → asked = []
  overflown : ∀ id index, query.cursor = some (.before id) →
    catalog.position? id = some index → query.limit < index → asked = []

section List

variable [Entry α] (catalog : Catalog α) (tier : DynamicTier (ExceptT Error (StateM σ)) π α)

lemma list_builtin_apply {cursor : Cursor} {index : ℕ}
    (h : catalog.position? cursor.id = some index) (limit : ℕ) (s : σ) :
    list catalog tier ⟨some cursor, limit⟩ s =
      fill catalog tier cursor.direction limit [] (beyondStarts cursor.direction (.static index))
        s := by
  simp only [list, resolveCursor, h]
  rfl

lemma list_row_apply {cursor : Cursor} (h : catalog.position? cursor.id = none) (limit : ℕ)
    (s : σ) :
    list catalog tier ⟨some cursor, limit⟩ s =
      match tier.resolve cursor.id s with
      | (.error error, left) => (.error error, left)
      | (.ok none, left) => (.error (.cursorNotFound cursor), left)
      | (.ok (some place), left) =>
        fill catalog tier cursor.direction limit []
          (beyondStarts cursor.direction (.dynamic place)) left := by
  simp only [list, resolveCursor, h, bind, ExceptT.bind, ExceptT.mk, StateT.bind]
  rcases tier.resolve cursor.id s with ⟨_ | _ | place, left⟩ <;> rfl

namespace Safe

variable {catalog : Catalog α} {asked : List (Asked π α)} {outcome : Except Error (Page α)}

omit [Entry α] in
lemma countP_isResolve (queries : ∀ call ∈ asked, call.isQuery = true) :
    asked.countP Asked.isResolve = 0 := by
  refine List.countP_eq_zero.mpr fun call hcall => ?_
  have hquery := queries call hcall
  cases call with
  | resolve => cases hquery
  | queryFrom => exact Bool.false_ne_true

lemma of_queries {query : Query} (guarded : Guarded query.limit asked outcome)
    (count : asked.length ≤ 1) (queries : ∀ call ∈ asked, call.isQuery = true)
    (afterBuiltin : ∀ id index, query.cursor = some (.after id) →
      catalog.position? id = some index → asked = [])
    (overflown : ∀ id index, query.cursor = some (.before id) →
      catalog.position? id = some index → query.limit < index → asked = []) :
    Safe catalog query asked outcome where
  toGuarded := guarded
  resolves id answer hmem := by cases queries _ hmem
  resolvesOnce := by rw [countP_isResolve queries]; exact Nat.zero_le 1
  queriesOnce := Nat.le_trans List.countP_le_length count
  afterBuiltin := afterBuiltin
  overflown := overflown

lemma of_resolve {cursor : Cursor} {limit : ℕ} {answer : Except Error (Option π)}
    (unreserved : catalog.position? cursor.id = none)
    (guarded : Guarded limit (.resolve cursor.id answer :: asked) outcome)
    (count : asked.length ≤ 1) (queries : ∀ call ∈ asked, call.isQuery = true) :
    Safe catalog ⟨some cursor, limit⟩ (.resolve cursor.id answer :: asked) outcome where
  toGuarded := guarded
  resolves id answer' hmem := by
    rcases List.mem_cons.mp hmem with hcall | hmem
    · cases hcall
      exact ⟨cursor, rfl, rfl, unreserved⟩
    · cases queries _ hmem
  resolvesOnce := by
    rw [List.countP_cons, countP_isResolve queries]
    exact Nat.le_refl 1
  queriesOnce := by
    rw [List.countP_cons]
    exact Nat.le_trans List.countP_le_length count
  afterBuiltin := by
    rintro id index ⟨⟩ hposition
    cases unreserved.symm.trans hposition
  overflown := by
    rintro id index ⟨⟩ hposition
    cases unreserved.symm.trans hposition

end Safe

lemma countP_beyondStarts_le (direction : Direction) (position : Position π) :
    (beyondStarts direction position).countP Start.isDynamic ≤ 1 := by
  cases direction <;> cases position <;> exact Nat.le_of_ble_eq_true rfl

/-- The whole of what a query asks, and what comes of it. -/
lemma list_safe (query : Query) (s : σ) :
    let plain := list catalog tier query s
    ∃ asked, Safe catalog query asked plain.1 ∧
      list catalog tier.recorded query (s, []) = (plain.1, plain.2, asked) := by
  obtain ⟨cursor?, limit⟩ := query
  have hnil : ([] : List α).length ≤ limit := Nat.zero_le limit
  cases cursor? with
  | none =>
    obtain ⟨asked, guarded, hcount, hqueries, hrun⟩ :=
      fill_guarded catalog tier .ascending (edgeStarts .ascending) hnil s []
    exact ⟨asked, .of_queries guarded hcount hqueries (by rintro _ _ ⟨⟩) (by rintro _ _ ⟨⟩), hrun⟩
  | some cursor =>
    cases hposition : catalog.position? cursor.id with
    | some index =>
      simp only [list_builtin_apply _ _ hposition]
      obtain ⟨asked, guarded, hcount, hqueries, hrun⟩ :=
        fill_guarded catalog tier cursor.direction (beyondStarts cursor.direction (.static index))
          hnil s []
      have honce := Nat.le_trans hcount (countP_beyondStarts_le _ _)
      refine ⟨asked, .of_queries guarded honce hqueries ?_ ?_, hrun⟩
      · -- behind a built-in entry there is no visit to the rows
        rintro id _ ⟨⟩ -
        exact List.eq_nil_of_length_eq_zero (Nat.le_zero.mp hcount)
      · -- the built-in entries before that of the cursor fill the page and more
        rintro id index' ⟨⟩ hindex hfull
        obtain rfl := Option.some_inj.mp (hposition.symm.trans hindex)
        obtain ⟨hlt, -⟩ := Catalog.position?_eq_some hposition
        have hslice : limit <
            (catalog.slice (some index) .descending (limit + 1)).length := by
          simp only [Catalog.slice, Option.getD_some, List.length_take, List.length_reverse]
          change limit < index at hfull
          omega
        obtain ⟨page, hpage⟩ := fill_of_full catalog tier.recorded .descending
          [.boundary .dynamic] (s, []) hslice
        exact congrArg (fun run => run.2.2) (hrun.symm.trans hpage)
    | none =>
      simp only [list_row_apply _ _ hposition]
      have hresolve : tier.recorded.resolve cursor.id (s, []) =
          ((tier.resolve cursor.id s).1, (tier.resolve cursor.id s).2,
            [.resolve cursor.id (tier.resolve cursor.id s).1]) := rfl
      rw [hresolve]
      rcases tier.resolve cursor.id s with ⟨error | _ | place, left⟩
      · exact ⟨_, .of_resolve hposition (.failed (by rintro _ _ _ _ ⟨⟩) rfl) (Nat.zero_le 1)
          (by simp), rfl⟩
      · exact ⟨_, .of_resolve hposition ((Guarded.refused _).cons (by rintro _ _ _ _ ⟨⟩) rfl)
          (Nat.zero_le 1) (by simp), rfl⟩
      · obtain ⟨asked, guarded, hcount, hqueries, hrun⟩ :=
          fill_guarded catalog tier cursor.direction
            (beyondStarts cursor.direction (.dynamic place)) hnil left
            [.resolve cursor.id (.ok (some place))]
        exact ⟨_, .of_resolve hposition (guarded.cons (by rintro _ _ _ _ ⟨⟩) rfl)
          (Nat.le_trans hcount (countP_beyondStarts_le _ _)) hqueries, hrun⟩

/-- **Pages are safe over any tier.** Whatever the dynamic tier answers, the room on a page is never
negative, a page holds at most its limit of items, and just that many if it says that more follow.
The tier is asked once at most where a cursor is, and only if the catalog does not know; it is asked
once at most for rows, for one at least and for one more than the limit at most, and not at all
behind a built-in entry or once the built-in entries overfill the page. Its first error is the
outcome, and nothing is asked after it. -/
theorem pages_are_safe_over_any_tier (query : Query) (s : σ) :
    let (outcome, left, asked) := list catalog tier.recorded query (s, [])
    (outcome, left) = list catalog tier query s ∧
      Safe catalog query asked outcome ∧
      listChecked catalog tier query = some <$> list catalog tier query := by
  obtain ⟨asked, safe, hrun⟩ := list_safe catalog tier query s
  simp only [hrun]
  exact ⟨rfl, safe, listChecked_eq catalog tier query⟩

/-- A tier that gives more rows than it is asked for, and in no order. -/
example :
    let tier : DynamicTier (ExceptT Error (StateM Unit)) ℕ String :=
      ⟨fun _ => pure none, fun _ _ _ => pure ["blue", "airy", "calm"]⟩
    (list ⟨["dead"]⟩ tier (.first 2) ()).1 = .ok ⟨["blue", "airy"], true⟩ := rfl

end List

end Listing

end MoodStore
