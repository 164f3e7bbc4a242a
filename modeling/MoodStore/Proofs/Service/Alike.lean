import MoodStore.Proofs.Service.Paired
import MoodStore.Proofs.Store.Veil

/-!
Stores that are filled with other content.

Two stores are alike if they look the same under the veil, the first one painted over. Whatever is
asked of them, they refuse it with the same error, or both answer: the same moods, conversations and
lines, but for their content.
-/

namespace MoodStore

open Listing (Direction DynamicTier Page Query)

variable {α β γ : Type}

lemma cases_of_map_eq {view : α → γ} {view' : β → γ} {option : Option α} {option' : Option β}
    (h : option.map view = option'.map view') :
    option = none ∧ option' = none ∨
      ∃ item item', option = some item ∧ option' = some item' ∧ view item = view' item' := by
  rcases option with _ | item <;> rcases option' with _ | item'
  · exact .inl ⟨rfl, rfl⟩
  · cases h
  · cases h
  · exact .inr ⟨item, item', rfl, rfl, Option.some_inj.mp h⟩

/-! ### Catalogs -/

/-- The catalogs have entries with the same ids in the same order. -/
def Catalog.SameIds [Entry α] [Entry β] (catalog : Catalog α) (catalog' : Catalog β) : Prop :=
  catalog.entries.map Entry.id = catalog'.entries.map Entry.id

namespace Catalog.SameIds

variable [Entry α] [Entry β] {catalog : Catalog α} {catalog' : Catalog β}

lemma position? (h : catalog.SameIds catalog') (id : String) :
    catalog.position? id = catalog'.position? id := by
  have hids := congrArg (List.findIdx? fun other => foldCase other == foldCase id) h
  rwa [List.findIdx?_map, List.findIdx?_map] at hids

lemma contains (h : catalog.SameIds catalog') (id : String) :
    catalog.contains id = catalog'.contains id := by
  rw [Catalog.contains, h.position?, Catalog.contains]

lemma get? (h : catalog.SameIds catalog') (id : String) :
    (catalog.get? id).map Entry.id = (catalog'.get? id).map Entry.id := by
  have hindex : ∀ index : Nat, catalog.entries[index]?.map Entry.id =
      catalog'.entries[index]?.map Entry.id := by
    intro index
    rw [← List.getElem?_map, ← List.getElem?_map, h]
  rw [Catalog.get?, Catalog.get?, h.position?]
  cases catalog'.position? id with
  | none => rfl
  | some index => exact hindex index

lemma slice (h : catalog.SameIds catalog') (from? : Option Nat) (direction : Direction)
    (count : Nat) :
    (catalog.slice from? direction count).map Entry.id =
      (catalog'.slice from? direction count).map Entry.id := by
  have hids : catalog.entries.map Entry.id = catalog'.entries.map Entry.id := h
  have hlength : catalog.entries.length = catalog'.entries.length := by
    rw [← List.length_map Entry.id, hids, List.length_map]
  cases direction with
  | ascending => simp only [Catalog.slice, List.map_take, List.map_drop, hids]
  | descending => simp only [Catalog.slice, List.map_take, List.map_reverse, hids, hlength]

end Catalog.SameIds

/-! ### Listings -/

namespace Listing

variable {π : Type} [Entry α] [Entry β]

/-- Both lists have entries with the same ids in the same order. -/
def SameIds (entries : List α) (entries' : List β) : Prop :=
  entries.map Entry.id = entries'.map Entry.id

/-- Both pages have items with the same ids, and more beyond them or not. -/
def Page.SameIds (page : Page α) (page' : Page β) : Prop :=
  Listing.SameIds page.items page'.items ∧ page.hasMore = page'.hasMore

variable {catalog : Catalog α} {catalog' : Catalog β} {rows : DynamicTier (Except Error) π α}
  {rows' : DynamicTier (Except Error) π β}

section Fill

variable (hcatalog : catalog.SameIds catalog')
  (hquery : ∀ place direction count, Agree SameIds (rows.queryFrom place direction count)
    (rows'.queryFrom place direction count))

include hcatalog hquery

lemma queryTier_agree (direction : Direction) (count : Nat) (start : Start π) :
    Agree SameIds (queryTier catalog rows direction count start)
      (queryTier catalog' rows' direction count start) := by
  cases start with
  | boundary tier =>
    cases tier with
    | dynamic => exact hquery _ _ _
    | static => exact .ok (hcatalog.slice _ _ _)
  | beyond position =>
    cases position with
    | dynamic place => exact hquery _ _ _
    | static index => exact .ok (hcatalog.slice _ _ _)

lemma fill_agree (direction : Direction) (limit : Nat) {items : List α} {items' : List β}
    (hitems : SameIds items items') (starts : List (Start π)) :
    Agree Page.SameIds (fill catalog rows direction limit items starts)
      (fill catalog' rows' direction limit items' starts) := by
  induction starts generalizing items items' with
  | nil => exact .ok ⟨hitems, rfl⟩
  | cons start starts ih =>
    have hlength : items.length = items'.length := by
      rw [← List.length_map Entry.id, hitems, List.length_map]
    rw [fill, fill, hlength]
    refine (queryTier_agree hcatalog hquery _ _ start).bind fun fetched fetched' hfetched => ?_
    have hcount : fetched.length = fetched'.length := by
      rw [← List.length_map Entry.id, hfetched, List.length_map]
    rw [hcount]
    split
    · refine .ok ⟨?_, rfl⟩
      rw [SameIds, List.map_append, List.map_append, List.map_take, List.map_take, hitems, hfetched]
    · refine ih ?_
      rw [SameIds, List.map_append, List.map_append, hitems, hfetched]

end Fill

/-- A page is filled, or refused, by the ids of the entries alone. -/
lemma list_agree (hcatalog : catalog.SameIds catalog')
    (hresolve : ∀ id, Agree Eq (rows.resolve id) (rows'.resolve id))
    (hquery : ∀ place direction count, Agree SameIds (rows.queryFrom place direction count)
      (rows'.queryFrom place direction count)) (query : Query) :
    Agree Page.SameIds (list catalog rows query) (list catalog' rows' query) := by
  have hcursor : ∀ cursor, Agree Eq (resolveCursor catalog rows cursor)
      (resolveCursor catalog' rows' cursor) := by
    intro cursor
    rw [resolveCursor, resolveCursor, hcatalog.position?]
    cases catalog'.position? cursor.id with
    | some index => exact .ok rfl
    | none =>
      refine (hresolve cursor.id).bind fun place place' hplace => ?_
      subst hplace
      cases place with
      | some place => exact .ok rfl
      | none => exact .error _
  have hempty : SameIds ([] : List α) ([] : List β) := rfl
  rw [list, list]
  cases query.cursor with
  | none => exact fill_agree hcatalog hquery _ _ hempty _
  | some cursor =>
    refine (hcursor cursor).bind fun position position' hposition => ?_
    subst hposition
    exact fill_agree hcatalog hquery _ _ hempty _

end Listing

/-! ### Tables and databases -/

section Alike

variable {paint : Paint}

/-- The tables look the same under the veil, the first ones painted over. -/
def Rows.Alike (paint : Paint) (rows rows' : Rows) : Prop := rows.veiled paint = rows'.veiled .none

/-- The databases look the same under the veil, the first one painted over. -/
def Database.Alike (paint : Paint) (db db' : Database) : Prop :=
  db.veiled paint = db'.veiled .none

/-- On alike tables the statements give related answers or the same failure, and leave tables that
are alike. -/
def Matching (paint : Paint) (same : α → β → Prop) (statement : Rows → Except Failure α × Rows)
    (statement' : Rows → Except Failure β × Rows) : Prop :=
  ∀ ⦃rows rows'⦄, Rows.Alike paint rows rows' →
    Agree same (statement rows).1 (statement' rows').1 ∧
      Rows.Alike paint (statement rows).2 (statement' rows').2

lemma Veils.matching {statement : Rows → Except Failure α × Rows}
    {statement' : Rows → Except Failure β × Rows} {veiled : Rows → Except Failure γ × Rows}
    {view : α → γ} {view' : β → γ} (h : Veils paint view statement veiled)
    (h' : Veils .none view' statement' veiled) :
    Matching paint (fun answer answer' => view answer = view' answer') statement statement' := by
  intro rows rows' halike
  have hboth := h rows
  rw [halike, h' rows'] at hboth
  obtain ⟨hanswer, hrows⟩ := Prod.mk.inj hboth
  exact ⟨.of_map_eq hanswer.symm, hrows.symm⟩

namespace Database.Alike

variable {db db' : Database} (h : db.Alike paint db')

include h

lemma rows_cases : db.rows = none ∧ db'.rows = none ∨
    ∃ rows rows', db.rows = some rows ∧ db'.rows = some rows' ∧ Rows.Alike paint rows rows' :=
  cases_of_map_eq (congrArg Database.rows h)

lemma with_rows {rows rows' : Rows} (hrows : Rows.Alike paint rows rows') :
    Database.Alike paint { db with rows := some rows } { db' with rows := some rows' } := by
  obtain ⟨version, otherTables, otherRows, otherIndexes, views, _⟩ := db
  obtain ⟨version', otherTables', otherRows', otherIndexes', views', _⟩ := db'
  simp only [Alike, Database.veiled, Database.mk.injEq] at h ⊢
  exact ⟨h.1, h.2.1, h.2.2.1, h.2.2.2.1, h.2.2.2.2.1, congrArg some hrows⟩

lemma rowsOrError : Agree (Rows.Alike paint) db.rowsOrError db'.rowsOrError := by
  obtain ⟨hdb, hdb'⟩ | ⟨rows, rows', hdb, hdb', hrows⟩ := h.rows_cases
  · rw [Database.rowsOrError, Database.rowsOrError, Database.read, Database.read, hdb, hdb']
    exact .error _
  · rw [Database.rowsOrError, Database.rowsOrError, Database.read, Database.read, hdb, hdb']
    exact .ok hrows

lemma write {same : α → β → Prop} {statement : Rows → Except Failure α × Rows}
    {statement' : Rows → Except Failure β × Rows}
    (hstatement : Matching paint same statement statement') :
    Agree same (db.write statement).1 (db'.write statement').1 ∧
      Database.Alike paint (db.write statement).2 (db'.write statement').2 := by
  obtain ⟨hdb, hdb'⟩ | ⟨rows, rows', hdb, hdb', hrows⟩ := h.rows_cases
  · rw [Database.write, Database.write, hdb, hdb']
    exact ⟨.error _, h⟩
  · rw [Database.write, Database.write, hdb, hdb']
    exact ⟨(hstatement hrows).1, h.with_rows (hstatement hrows).2⟩

end Database.Alike

/-! ### Rows that are found -/

namespace Rows.Alike

variable {rows rows' : Rows} (h : Rows.Alike paint rows rows')

include h

lemma findMood? (owner key : String) :
    (rows.findMood? owner key).map (MoodRow.veiled paint) =
      (rows'.findMood? owner key).map (MoodRow.veiled .none) := by
  rw [← findMood?_veiled, h, findMood?_veiled]

lemma findConversation? (owner publicId : String) :
    (rows.findConversation? owner publicId).map ConversationRow.veiled =
      (rows'.findConversation? owner publicId).map ConversationRow.veiled := by
  rw [← findConversation?_veiled, h, findConversation?_veiled]

lemma findLine? (owner conversation publicId : String) :
    (rows.findLine? owner conversation publicId).map LineRow.veiled =
      (rows'.findLine? owner conversation publicId).map LineRow.veiled := by
  rw [← findLine?_veiled, h, findLine?_veiled]

lemma linesOf (conversation : Nat) :
    (rows.linesOf conversation).map LineRow.veiled =
      (rows'.linesOf conversation).map LineRow.veiled := by
  rw [← linesOf_veiled, h, linesOf_veiled]

lemma moodOf? {line line' : LineRow} (hline : line.veiled = line'.veiled) :
    (rows.moodOf? line).map (MoodRow.veiled paint) =
      (rows'.moodOf? line').map (MoodRow.veiled .none) := by
  rw [← moodOf?_veiled, h, hline, moodOf?_veiled]

lemma countLinesUsing (owner key : String) :
    rows.countLinesUsing owner key = rows'.countLinesUsing owner key := by
  rw [← countLinesUsing_veiled, h, countLinesUsing_veiled]

lemma moodsOf (owner : String) :
    (rows.moodsOf owner).map (MoodRow.veiled paint) =
      (rows'.moodsOf owner).map (MoodRow.veiled .none) := by
  rw [← moodsOf_veiled, h, moodsOf_veiled]

lemma conversationsOf (owner : String) :
    (rows.conversationsOf owner).map ConversationRow.veiled =
      (rows'.conversationsOf owner).map ConversationRow.veiled := by
  rw [← conversationsOf_veiled, h, conversationsOf_veiled]

end Rows.Alike

/-! ### Questions -/

/-- The meanings have moods of the same name, and rows with the same row id. -/
def Moods.Meaning.Alike (meaning meaning' : Moods.Meaning) : Prop :=
  meaning.mood?.map Mood.name = meaning'.mood?.map Mood.name ∧
    meaning.row?.map MoodRow.id = meaning'.row?.map MoodRow.id

lemma Moods.map_beyond {id : α → Nat} {id' : γ → Nat} (view : α → γ)
    (hid : ∀ row, id' (view row) = id row) (from? : Option Nat) (direction : Direction)
    (rows : List α) :
    (Moods.beyond id from? direction rows).map view =
      Moods.beyond id' from? direction (rows.map view) := by
  cases direction with
  | ascending => simp only [Moods.beyond, List.filter_map, Function.comp_def, hid]
  | descending =>
    simp only [Moods.beyond, List.filter_map, Function.comp_def, hid, List.map_reverse]

namespace Database.Alike

variable {db db' : Database} (h : db.Alike paint db') {builtins builtins' : Catalog Mood}

include h

/-! Conversations -/

lemma find? (owner publicId : String) :
    Agree (fun row? row?' => row?.map ConversationRow.veiled = row?'.map ConversationRow.veiled)
      (Conversations.find? owner publicId db) (Conversations.find? owner publicId db') :=
  h.rowsOrError.bind fun _ _ hrows => .ok (hrows.findConversation? owner publicId)

lemma countLinesUsing (owner key : String) :
    Agree Eq (do return (← db.rowsOrError).countLinesUsing owner key)
      (do return (← db'.rowsOrError).countLinesUsing owner key) :=
  h.rowsOrError.bind fun _ _ hrows => .ok (hrows.countLinesUsing owner key)

lemma listConversations (owner : String) (query : Query) :
    Agree Listing.Page.SameIds (Conversations.list owner query db)
      (Conversations.list owner query db') := by
  refine Listing.list_agree rfl (fun publicId => ?_) (fun place direction count => ?_) query
  · refine h.rowsOrError.bind fun rows rows' hrows => .ok ?_
    have hfound := congrArg (Option.map ConversationRow.id)
      (hrows.findConversation? owner publicId)
    rwa [Option.map_map, Option.map_map] at hfound
  · refine h.rowsOrError.bind fun rows rows' hrows => .ok ?_
    have hids (row : ConversationRow) : row.veiled.id = row.id := rfl
    have hlisted := congrArg (fun rows => ((Moods.beyond ConversationRow.id place direction
      rows).take count).map ConversationRow.publicId) (hrows.conversationsOf owner)
    simp only [← Moods.map_beyond _ hids, ← List.map_take, List.map_map] at hlisted
    rw [Listing.SameIds, List.map_map, List.map_map]
    exact hlisted

/-! Moods -/

variable (hcatalog : builtins.SameIds builtins')

include hcatalog

lemma listMoods (owner : String) (query : Query) :
    Agree Listing.Page.SameIds (Moods.list builtins owner query db)
      (Moods.list builtins' owner query db') := by
  refine Listing.list_agree hcatalog (fun name => ?_) (fun place direction count => ?_) query
  · refine h.rowsOrError.bind fun rows rows' hrows => .ok ?_
    have hfound := congrArg (Option.map MoodRow.id) (hrows.findMood? owner (foldCase name))
    rwa [Option.map_map, Option.map_map] at hfound
  · refine h.rowsOrError.bind fun rows rows' hrows => .ok ?_
    have hids (paint : Paint) (row : MoodRow) : (row.veiled paint).id = row.id := rfl
    have hlisted := congrArg (fun rows => ((Moods.beyond MoodRow.id place direction
      rows).take count).map MoodRow.name) (hrows.moodsOf owner)
    simp only [← Moods.map_beyond _ (hids _), ← List.map_take, List.map_map] at hlisted
    rw [Listing.SameIds, List.map_map, List.map_map]
    exact hlisted

lemma meaning (owner name : String) :
    Agree Moods.Meaning.Alike (Moods.meaning builtins owner name db)
      (Moods.meaning builtins' owner name db') := by
  rw [Moods.meaning, Moods.meaning]
  obtain ⟨hget, hget'⟩ | ⟨mood, mood', hget, hget', hname⟩ := cases_of_map_eq (hcatalog.get? name)
  · rw [hget, hget']
    refine h.rowsOrError.bind fun rows rows' hrows => .ok ?_
    obtain ⟨hfind, hfind'⟩ | ⟨row, row', hfind, hfind', hrow⟩ :=
      cases_of_map_eq (hrows.findMood? owner (foldCase name))
    · rw [hfind, hfind']
      exact ⟨rfl, rfl⟩
    · rw [hfind, hfind']
      obtain ⟨hid, -, hname, -⟩ := MoodRow.mk.inj hrow
      exact ⟨congrArg some hname, congrArg some hid⟩
  · rw [hget, hget']
    exact .ok ⟨congrArg some hname, rfl⟩

lemma getMood (owner name : String) :
    RefusedAlike (Moods.get builtins owner name db)
      (Moods.get builtins' owner name db') := by
  refine (h.meaning hcatalog owner name).bind fun meaning meaning' hmeaning => ?_
  obtain ⟨hmood, hmood'⟩ | ⟨mood, mood', hmood, hmood', -⟩ := cases_of_map_eq hmeaning.1
  · rw [hmood, hmood']
    exact .error _
  · rw [hmood, hmood']
    exact .ok True.intro

end Database.Alike

/-! Lines -/

namespace Rows.Alike

variable {rows rows' : Rows} (h : Rows.Alike paint rows rows') {builtins builtins' : Catalog Mood}
  (hcatalog : builtins.SameIds builtins')

include h hcatalog

lemma lineMood {line line' : LineRow} (hline : line.veiled = line'.veiled) :
    RefusedAlike (Conversations.lineMood builtins rows line)
      (Conversations.lineMood builtins' rows' line') := by
  obtain ⟨-, -, -, -, hname, -⟩ := LineRow.mk.inj hline
  rw [Conversations.lineMood, Conversations.lineMood, hname]
  obtain ⟨hrow, hrow'⟩ | ⟨row, row', hrow, hrow', -⟩ := cases_of_map_eq (h.moodOf? hline)
  · rw [hrow, hrow']
    obtain ⟨hget, hget'⟩ | ⟨mood, mood', hget, hget', -⟩ :=
      cases_of_map_eq (hcatalog.get? line'.moodName)
    · rw [hget, hget']
      exact .error _
    · rw [hget, hget']
      exact .ok True.intro
  · rw [hrow, hrow']
    exact .ok True.intro

lemma showLine {line line' : LineRow} (hline : line.veiled = line'.veiled) :
    RefusedAlike (Conversations.showLine builtins rows line)
      (Conversations.showLine builtins' rows' line') :=
  (h.lineMood hcatalog hline).bind fun _ _ _ => .ok True.intro

lemma showLines {lines lines' : List LineRow}
    (hlines : lines.map LineRow.veiled = lines'.map LineRow.veiled) :
    RefusedAlike (lines.mapM (Conversations.showLine builtins rows))
      (lines'.mapM (Conversations.showLine builtins' rows')) := by
  induction lines generalizing lines' with
  | nil =>
    obtain rfl : lines' = [] := by simpa using hlines.symm
    exact .ok True.intro
  | cons line lines ih =>
    cases lines' with
    | nil => cases hlines
    | cons line' lines' =>
      obtain ⟨hline, hrest⟩ := List.cons.inj hlines
      rw [List.mapM_cons, List.mapM_cons]
      exact (h.showLine hcatalog hline).bind fun _ _ _ => (ih hrest).bind fun _ _ _ =>
        .ok True.intro

end Rows.Alike

namespace Database.Alike

variable {db db' : Database} (h : db.Alike paint db') {builtins builtins' : Catalog Mood}
  (hcatalog : builtins.SameIds builtins')

include h hcatalog

lemma getLine (owner conversation publicId : String) :
    RefusedAlike (Conversations.getLine builtins owner conversation publicId db)
      (Conversations.getLine builtins' owner conversation publicId db') := by
  refine h.rowsOrError.bind fun rows rows' hrows => ?_
  obtain ⟨hfind, hfind'⟩ | ⟨line, line', hfind, hfind', hline⟩ :=
    cases_of_map_eq (hrows.findLine? owner conversation publicId)
  · rw [hfind, hfind']
    exact .error _
  · rw [hfind, hfind']
    exact hrows.showLine hcatalog hline

lemma getConversation (owner publicId : String) :
    RefusedAlike (Conversations.get builtins owner publicId db)
      (Conversations.get builtins' owner publicId db') := by
  refine h.rowsOrError.bind fun rows rows' hrows => ?_
  obtain ⟨hfind, hfind'⟩ | ⟨row, row', hfind, hfind', hrow⟩ :=
    cases_of_map_eq (hrows.findConversation? owner publicId)
  · rw [hfind, hfind']
    exact .error _
  · rw [hfind, hfind']
    obtain ⟨hid, -⟩ := ConversationRow.mk.inj hrow
    refine Agree.bind (hrows.showLines hcatalog ?_) fun _ _ _ => .ok True.intro
    rw [hid]
    exact hrows.linesOf row'.id

end Database.Alike

end Alike

end MoodStore
