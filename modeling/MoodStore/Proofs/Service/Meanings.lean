import MoodStore.Proofs.Account.Dependents
import MoodStore.Proofs.Service.Atomicity

/-!
What a mood name means.

Only the folded name counts. A name means the first built-in mood that has it, else the mood of the
owner that has it, else nothing; a row that has the name of a built-in mood, since a service with
other built-in moods has written it, does not count. Reading a mood, creating a line, listing from a
mood, writing and deleting a mood all look names up, and all of them find the same.
-/

namespace MoodStore

open Listing

variable {ρ : Type} {catalogs : Set (Catalog Mood)} {rows : Rows} {builtins : Catalog Mood}
  {owner name : String} {meaning : Moods.Meaning} {mood : Mood}

/-! ### The three meanings -/

namespace Moods

/-- What the name means to the owner where the services have these built-in moods: the first of them
that has the name, else the mood of the owner that has it, else nothing. -/
inductive Verdict (builtins : Catalog Mood) (rows : Rows) (owner name : String) : Meaning → Prop
  | builtin {before after : List Mood} {mood : Mood}
    (entries : builtins.entries = before ++ mood :: after)
    (named : foldCase mood.name = foldCase name)
    (first : ∀ other ∈ before, foldCase other.name ≠ foldCase name) :
    Verdict builtins rows owner name (.builtin mood)
  | owned {row : MoodRow}
    (unreserved : ∀ mood ∈ builtins.entries, foldCase mood.name ≠ foldCase name)
    (mem : row ∈ rows.moods) (named : row.IsNamed owner name) :
    Verdict builtins rows owner name (.owned row)
  | absent (unreserved : ∀ mood ∈ builtins.entries, foldCase mood.name ≠ foldCase name)
    (unowned : ∀ row ∈ rows.moods, ¬row.IsNamed owner name) :
    Verdict builtins rows owner name .absent

/-- What is listed before the mood that a name means, and what behind it, where the owner's moods
are listed from the oldest on, and then the built-in ones. -/
inductive Standing (builtins : Catalog Mood) (rows : Rows) (owner name : String) :
    Meaning → List Mood → List Mood → Prop
  | builtin {before after : List Mood} {mood : Mood}
    (entries : builtins.entries = before ++ mood :: after)
    (first : ∀ other ∈ before, foldCase other.name ≠ foldCase name) :
    Standing builtins rows owner name (.builtin mood)
      ((rows.moodsOf owner).map MoodRow.toMood ++ before) after
  | owned {older newer : List MoodRow} {row : MoodRow}
    (table : rows.moodsOf owner = older ++ row :: newer) :
    Standing builtins rows owner name (.owned row) (older.map MoodRow.toMood)
      (newer.map MoodRow.toMood ++ builtins.entries)

lemma Verdict.congr {same : String} (hsame : foldCase same = foldCase name)
    (h : Verdict builtins rows owner name meaning) :
    Verdict builtins rows owner same meaning := by
  cases h with
  | builtin entries named first => exact .builtin entries (hsame ▸ named) (hsame ▸ first)
  | owned unreserved mem named =>
    exact .owned (hsame ▸ unreserved) mem ⟨named.1, named.2.trans hsame.symm⟩
  | absent unreserved unowned =>
    exact .absent (hsame ▸ unreserved) fun row hrow hnamed =>
      unowned row hrow ⟨hnamed.1, hnamed.2.trans hsame⟩

lemma Verdict.get?_eq (h : Verdict builtins rows owner name meaning) :
    builtins.get? name = match meaning with
      | .builtin mood => some mood
      | _ => none := by
  cases h with
  | builtin entries named first =>
    exact Catalog.get?_eq_some_iff.mpr ⟨_, _, entries, named, first⟩
  | owned unreserved => exact Catalog.get?_eq_none_iff.mpr unreserved
  | absent unreserved => exact Catalog.get?_eq_none_iff.mpr unreserved

lemma Verdict.row?_mem (h : Verdict builtins rows owner name meaning) :
    ∀ row ∈ meaning.row?, row ∈ rows.moods := by
  intro row hrow
  cases h with
  | owned _ mem _ =>
    obtain rfl := Option.some_inj.mp hrow
    exact mem
  | builtin => cases hrow
  | absent => cases hrow

lemma Verdict.contains_iff (h : Verdict builtins rows owner name meaning) :
    builtins.contains name = true ↔ ∃ mood, meaning = .builtin mood := by
  rw [Catalog.contains_eq_isSome_get?, h.get?_eq]
  cases meaning <;> simp

end Moods

/-! ### Looking a name up -/

namespace Database.Holds

variable {db : Database} (holds : db.Holds catalogs rows)

include holds

/-- The lookup finds the one verdict. -/
lemma meaning_iff_verdict : Moods.meaning builtins owner name db = .ok meaning ↔
    Moods.Verdict builtins rows owner name meaning := by
  rw [Moods.meaning_of_rows holds.1, Except.ok.injEq]
  constructor
  · rintro rfl
    cases hbuiltin : builtins.get? name with
    | some mood =>
      obtain ⟨before, after, entries, named, first⟩ := Catalog.get?_eq_some_iff.mp hbuiltin
      exact .builtin entries named first
    | none =>
      have unreserved := Catalog.get?_eq_none_iff.mp hbuiltin
      cases hfind : rows.findMood? owner (foldCase name) with
      | some row =>
        obtain ⟨hrow, hnamed⟩ := holds.2.findMood?_isNamed.mp hfind
        exact .owned unreserved hrow hnamed
      | none => exact .absent unreserved (holds.2.findMood?_eq_none_iff.mp hfind)
  · intro verdict
    rw [verdict.get?_eq]
    cases verdict with
    | builtin => rfl
    | owned _ mem named => simp only [holds.2.findMood?_isNamed.mpr ⟨mem, named⟩]
    | absent _ unowned => simp only [holds.2.findMood?_eq_none_iff.mpr unowned]

lemma exists_verdict (builtins : Catalog Mood) (owner name : String) :
    ∃ meaning, ∀ other, Moods.Verdict builtins rows owner name other ↔ other = meaning := by
  obtain ⟨meaning, hmeaning⟩ : ∃ meaning, Moods.meaning builtins owner name db = .ok meaning :=
    ⟨_, Moods.meaning_of_rows holds.1 builtins owner name⟩
  refine ⟨meaning, fun other => ?_⟩
  rw [← holds.meaning_iff_verdict, hmeaning, Except.ok.injEq, eq_comm]

end Database.Holds

/-! ### Listing from a mood -/

lemma findIdx?_append_cons {α : Type} {p : α → Bool} {front back : List α} {item : α}
    (hfront : ∀ other ∈ front, p other = false) (hitem : p item = true) :
    (front ++ item :: back).findIdx? p = some front.length := by
  rw [List.findIdx?_append, List.findIdx?_eq_none_iff.mpr hfront, List.findIdx?_cons, hitem]
  simp

lemma Listing.answer_of_index {α : Type} {index? : String → Option ℕ} {name : String}
    {front back : List α} {item : α} (h : index? name = some front.length) (limit : ℕ) :
    answer (front ++ item :: back) index? (.after name limit) = .ok (.ofRest limit back) ∧
      answer (front ++ item :: back) index? (.before name limit) =
        .ok (.ofRest limit front.reverse) := by
  have hbehind : (front ++ item :: back).drop (front.length + 1) = back := by
    rw [List.drop_append, List.drop_eq_nil_of_le (Nat.le_succ _), Nat.add_sub_cancel_left]
    rfl
  simp only [answer, Query.after, Query.before, Cursor.id, h, Cursor.direction, Direction.rest,
    hbehind, List.take_left, and_self]

namespace Moods

lemma Verdict.exists_standing (verdict : Verdict builtins rows owner name meaning)
    (sound : rows.Sound catalogs) (hmood : meaning.mood? = some mood) :
    ∃ before behind, Standing builtins rows owner name meaning before behind ∧
      (rows.account owner).moodIndex? builtins name = some before.length ∧
      (rows.account owner).moods ++ builtins.entries = before ++ mood :: behind := by
  cases verdict with
  | @builtin before after found entries named first =>
    obtain rfl : found = mood := Option.some_inj.mp hmood
    refine ⟨_, after, .builtin entries first, ?_, by simp [entries, Rows.account]⟩
    have hposition : builtins.position? name = some before.length := by
      rw [Catalog.position?, entries]
      exact findIdx?_append_cons (fun other hother => beq_eq_false_iff_ne.mpr (first other hother))
        (beq_iff_eq.mpr named)
    simp [Account.moodIndex?, hposition, Rows.account]
  | @owned row unreserved mem named =>
    obtain rfl : row.toMood = mood := Option.some_inj.mp hmood
    have hfind := sound.findMood?_isNamed.mpr ⟨mem, named⟩
    rw [Rows.findMood?_eq_find?, List.find?_eq_some_iff_append] at hfind
    obtain ⟨hkey, older, newer, table, hfirst⟩ := hfind
    refine ⟨_, _, .owned table, ?_, by simp [table, Rows.account]⟩
    have hposition : builtins.position? name = none :=
      Catalog.position?_eq_none_iff.mpr unreserved
    have holder : ∀ other ∈ older, other ∈ rows.moods := fun other hother =>
      (Rows.mem_moodsOf.mp (table ▸ List.mem_append_left _ hother)).1
    simp only [Account.moodIndex?, hposition, Rows.account, table, List.map_append, List.map_cons]
    -- no older mood of the owner has the key
    refine findIdx?_append_cons (fun other hother => ?_) ?_
    · obtain ⟨row', hrow', rfl⟩ := List.mem_map.mp hother
      rw [sound.hasKey_toMood (holder row' hrow')]
      simpa using hfirst row' hrow'
    · rw [sound.hasKey_toMood mem, hkey]
  | absent => cases hmood

lemma Verdict.moodIndex?_eq_none (verdict : Verdict builtins rows owner name .absent) :
    (rows.account owner).moodIndex? builtins name = none := by
  cases verdict with
  | absent unreserved unowned =>
    have hposition : builtins.position? name = none :=
      Catalog.position?_eq_none_iff.mpr unreserved
    simp only [Account.moodIndex?, hposition, List.findIdx?_eq_none_iff]
    intro other hother
    obtain ⟨row, hrow, rfl⟩ := List.mem_map.mp hother
    obtain ⟨hmem, howner⟩ := Rows.mem_moodsOf.mp hrow
    exact beq_eq_false_iff_ne.mpr fun hname => unowned row hmem ⟨howner, hname⟩

end Moods

/-! ### Operations on a mood name -/

/-- The operations on a mood name go by this meaning. A line gets that mood, whatever other callers
do while its id is drawn; when nobody interrupts, it is created unless all drawn ids are taken.
Setting the mood writes over that of the owner or adds one. -/
structure GoesBy (service : Service ρ) (world : World ρ) (rows : Rows) (owner name : String)
    (meaning : Moods.Meaning) : Prop where
  get : (service.getMood owner name world).1 = meaning.mood?.elim (.error .notFound) .ok
  listed : ∀ mood, meaning.mood? = some mood → ∃ before behind,
    Moods.Standing service.builtins rows owner name meaning before behind ∧ ∀ limit,
      (service.listMoods owner (.after name limit) world).1 = .ok (.ofRest limit behind) ∧
      (service.listMoods owner (.before name limit) world).1 = .ok (.ofRest limit before.reverse)
  unlisted : meaning = .absent → ∀ cursor : Cursor, cursor.id = name → ∀ limit,
    (service.listMoods owner ⟨some cursor, limit⟩ world).1 = .error (.cursorNotFound cursor)
  line_mood : ∀ mood, meaning.mood? = some mood → ∀ conversation new line, new.mood = name →
    (service.createLine owner conversation new world).1 = .ok line → line.mood = mood
  line : ∀ mood, meaning.mood? = some mood → ∀ home ∈ rows.conversations, home.owner = owner →
    ∀ new, new.mood = name → ∀ draws,
    let turn : Turn := ⟨service.builtins, .createLine owner home.publicId new, draws⟩
    match rows.pick? draws 0 .line with
    | some id =>
      turn.answer world.database = .ok (.line ⟨id, new.animal, new.think, new.text, mood⟩) ∧
        turn.after world.database = { world.database with rows := some (rows.withLine
          ⟨rows.lastLine + 1, id, home.id, meaning.row?.map MoodRow.id, mood.name, new.animal,
            new.think, new.text⟩) }
    | none => turn.answer world.database =
      .error (.internal (.idSpaceExhausted lineTag Ids.maxAttempts))
  no_line : meaning = .absent → ∀ conversation new, new.mood = name →
    (service.createLine owner conversation new world).1 =
        .error (.validation "mood" (quoted name ++ " does not exist")) ∧
      (service.createLine owner conversation new world).2.shared = world.shared
  set_protected : ∀ eyes tongue given,
    (service.setMood owner name eyes tongue world).1 = .error (.protectedEntity given) ↔
      given = name ∧ ∃ mood, meaning = .builtin mood
  set_kept : ∀ mood, meaning = .builtin mood → ∀ eyes tongue,
    (service.setMood owner name eyes tongue world).2.database = world.database
  set_written : (∀ mood, meaning ≠ .builtin mood) → ∀ eyes tongue, ∃ outcome,
    (service.setMood owner name eyes tongue world).1 =
        .ok ⟨.owned (meaning.row?.elim name MoodRow.name) eyes tongue, outcome⟩ ∧
      (outcome = .created ↔ meaning = .absent)
  delete_protected : ∀ given,
    (service.deleteMood owner name world).1 = .error (.protectedEntity given) ↔
      given = name ∧ ∃ mood, meaning = .builtin mood
  delete_kept : ∀ mood, meaning = .builtin mood →
    (service.deleteMood owner name world).2.database = world.database
  delete_missing : (service.deleteMood owner name world).1 = .error .notFound ↔ meaning = .absent

lemma Service.writes_of_contains (service : Service ρ)
    (hname : service.builtins.contains name = true) (owner : String) (world : World ρ) :
    (∀ eyes tongue, (service.setMood owner name eyes tongue world).1 =
        .error (.protectedEntity name) ∧
      (service.setMood owner name eyes tongue world).2.database = world.database) ∧
    (service.deleteMood owner name world).1 = .error (.protectedEntity name) ∧
      (service.deleteMood owner name world).2.database = world.database := by
  refine ⟨fun eyes tongue => ?_, ?_⟩
  · obtain ⟨log, hset⟩ := service.setMood_apply owner name eyes tongue world
    rw [hset, Moods.set_apply, hname, if_pos rfl]
    exact ⟨rfl, rfl⟩
  · rw [Service.deleteMood, Service.logged_apply, Moods.delete_apply, hname, if_pos rfl]
    exact ⟨rfl, rfl⟩

section GoesBy

variable {world : World ρ} (holds : world.database.Holds catalogs rows) (service : Service ρ)
  (verdict : Moods.Verdict service.builtins rows owner name meaning)

include holds verdict

lemma getMood_goesBy :
    (service.getMood owner name world).1 = meaning.mood?.elim (.error .notFound) .ok := by
  rw [Service.getMood, Service.logged_answer, Operation.reading_apply, Moods.get,
    holds.meaning_iff_verdict.mpr verdict]
  cases meaning <;> rfl

lemma listMoods_goesBy (hmood : meaning.mood? = some mood) : ∃ before behind,
    Moods.Standing service.builtins rows owner name meaning before behind ∧ ∀ limit,
      (service.listMoods owner (.after name limit) world).1 = .ok (.ofRest limit behind) ∧
      (service.listMoods owner (.before name limit) world).1 =
        .ok (.ofRest limit before.reverse) := by
  obtain ⟨before, behind, hstanding, hindex, horder⟩ := verdict.exists_standing holds.2 hmood
  refine ⟨before, behind, hstanding, fun limit => ?_⟩
  simp only [Service.listMoods, Service.logged_answer, Operation.reading_apply,
    holds.listMoods_eq, Account.listMoods, horder]
  exact answer_of_index hindex limit

lemma listMoods_unlisted (habsent : meaning = .absent) {cursor : Cursor} (hid : cursor.id = name)
    (limit : ℕ) :
    (service.listMoods owner ⟨some cursor, limit⟩ world).1 = .error (.cursorNotFound cursor) := by
  subst habsent
  simp only [Service.listMoods, Service.logged_answer, Operation.reading_apply,
    holds.listMoods_eq, Account.listMoods, answer, hid, verdict.moodIndex?_eq_none]

lemma createLine_mood (hmood : meaning.mood? = some mood) {conversation : String} {new : NewLine}
    {line : Line} (hnew : new.mood = name)
    (h : (service.createLine owner conversation new world).1 = .ok line) : line.mood = mood := by
  subst hnew
  rw [Service.createLine, Service.logged_answer, Conversations.createLine_apply,
    holds.meaning_iff_verdict.mpr verdict] at h
  simp only [hmood, Conversations.find?_of_rows holds.1] at h
  cases hhome : rows.findConversation? owner conversation with
  | none =>
    rw [hhome] at h
    cases h
  | some home =>
    simp only [hhome, Conversations.insertLine_apply] at h
    split at h
    -- only an insert that succeeds gives a line, and it shows the mood found before the draws
    case h_1 =>
      obtain rfl := Except.ok.inj h
      rfl
    case h_2 _ _ left _ =>
      rcases hagain : Conversations.find? owner home.publicId left.database with _ | found
      · rw [hagain] at h
        cases h
      · rw [hagain] at h
        cases h
    case h_3 => cases h

lemma createLine_refused (habsent : meaning = .absent) {new : NewLine} (hnew : new.mood = name)
    (conversation : String) :
    (service.createLine owner conversation new world).1 =
        .error (.validation "mood" (quoted name ++ " does not exist")) ∧
      (service.createLine owner conversation new world).2.shared = world.shared := by
  subst hnew habsent
  rw [Service.createLine, Service.logged_apply, Conversations.createLine_apply,
    holds.meaning_iff_verdict.mpr verdict]
  exact ⟨rfl, rfl⟩

lemma createLine_goesBy (hmood : meaning.mood? = some mood) {home : ConversationRow}
    (hhome : home ∈ rows.conversations) (howner : home.owner = owner) {new : NewLine}
    (hnew : new.mood = name) (draws : ℕ → UInt64) :
    let turn : Turn := ⟨service.builtins, .createLine owner home.publicId new, draws⟩
    match rows.pick? draws 0 .line with
    | some id =>
      turn.answer world.database = .ok (.line ⟨id, new.animal, new.think, new.text, mood⟩) ∧
        turn.after world.database = { world.database with rows := some (rows.withLine
          ⟨rows.lastLine + 1, id, home.id, meaning.row?.map MoodRow.id, mood.name, new.animal,
            new.think, new.text⟩) }
    | none => turn.answer world.database =
      .error (.internal (.idSpaceExhausted lineTag Ids.maxAttempts)) := by
  intro turn
  subst hnew
  let alone : World ℕ := ⟨world.database, [], 0⟩
  have halone : alone.database.Holds catalogs rows := holds
  obtain ⟨log, hinsert⟩ := insertLine_drawFrom halone draws hhome verdict.row?_mem owner mood new
  have hfind := holds.2.findConversation?_eq_some_iff.mpr ⟨hhome, howner, rfl⟩
  -- both look-ups succeed, so that only the insert is left
  have hcreate : Conversations.createLine service.builtins (drawFrom draws) owner home.publicId new
      alone = Conversations.insertLine (drawFrom draws) owner home meaning.row? mood new alone := by
    simp only [Conversations.createLine_apply, alone, holds.meaning_iff_verdict.mpr verdict, hmood,
      Conversations.find?_of_rows holds.1, hfind]
  simp only [Turn.answer, Turn.after, Turn.take, turn, Service.perform, Service.createLine,
    Operation.map_apply, Service.logged_answer, Service.logged_database]
  rw [hcreate, hinsert]
  cases hpick : rows.pick? draws 0 .line with
  | none => rfl
  | some id =>
    let row : LineRow := ⟨rows.lastLine + 1, id, home.id, meaning.row?.map MoodRow.id, mood.name,
      new.animal, new.think, new.text⟩
    have hinserted : rows.insertLine (Conversations.newRow home meaning.row? mood.name id new) =
        (.ok row, rows.withLine row) :=
      Rows.insertLine_of_live (Rows.isTaken_of_pick? hpick)
        (refersToLive_newRow hhome verdict.row?_mem mood.name id new)
    refine ⟨rfl, ?_⟩
    simp only [alone, Option.elim_some, hinserted, row]

omit holds in
lemma writes_reserved (hbuiltin : meaning = .builtin mood) :
    (∀ eyes tongue, (service.setMood owner name eyes tongue world).1 =
        .error (.protectedEntity name) ∧
      (service.setMood owner name eyes tongue world).2.database = world.database) ∧
    (service.deleteMood owner name world).1 = .error (.protectedEntity name) ∧
      (service.deleteMood owner name world).2.database = world.database :=
  service.writes_of_contains (verdict.contains_iff.mpr ⟨mood, hbuiltin⟩) owner world

lemma setMood_written (hfree : ∀ mood, meaning ≠ .builtin mood) (eyes tongue : String) :
    ∃ outcome, (service.setMood owner name eyes tongue world).1 =
        .ok ⟨.owned (meaning.row?.elim name MoodRow.name) eyes tongue, outcome⟩ ∧
      (outcome = .created ↔ meaning = .absent) := by
  have hname : service.builtins.contains name = false := by
    rw [Bool.eq_false_iff, ne_eq, verdict.contains_iff, not_exists]
    exact hfree
  obtain ⟨log, hset⟩ := service.setMood_apply owner name eyes tongue world
  rw [hset, Moods.set_apply, hname, if_neg Bool.false_ne_true, Operation.executing_apply,
    Database.write_of_rows holds.1]
  cases verdict with
  | builtin => exact absurd rfl (hfree _)
  | @owned row _ mem named =>
    rw [holds.2.writeMood_of_some (holds.2.findMood?_isNamed.mpr ⟨mem, named⟩)]
    refine ⟨Rows.outcomeOn row eyes tongue, rfl, iff_of_false ?_ nofun⟩
    unfold Rows.outcomeOn
    split <;> exact nofun
  | absent _ unowned =>
    rw [Rows.writeMood_of_none eyes tongue (holds.2.findMood?_eq_none_iff.mpr unowned)]
    exact ⟨.created, rfl, iff_of_true rfl rfl⟩

lemma deleteMood_unreserved (hfree : ∀ mood, meaning ≠ .builtin mood) :
    (∀ given, (service.deleteMood owner name world).1 ≠ .error (.protectedEntity given)) ∧
      ((service.deleteMood owner name world).1 = .error .notFound ↔ meaning = .absent) := by
  have hname : service.builtins.contains name = false := by
    rw [Bool.eq_false_iff, ne_eq, verdict.contains_iff, not_exists]
    exact hfree
  obtain ⟨_, -, hdeletion⟩ := holds.deleteMood service owner hname
  refine ⟨fun given hgiven => ?_, ?_⟩
  · rcases hdeletion.answer_cases with h | h | ⟨_, h⟩ <;> cases h.symm.trans hgiven
  rw [hdeletion.absent]
  cases verdict with
  | builtin => exact absurd rfl (hfree _)
  | owned _ mem named => exact iff_of_false (fun h => h _ mem named) nofun
  | absent _ unowned => exact iff_of_true unowned rfl

lemma goesBy : GoesBy service world rows owner name meaning := by
  have hreserved : (∃ mood, meaning = .builtin mood) ∨ ∀ mood, meaning ≠ .builtin mood := by
    rw [← not_exists]
    exact em _
  exact {
    get := getMood_goesBy holds service verdict
    listed := fun mood hmood => listMoods_goesBy holds service verdict hmood
    unlisted := fun habsent cursor hid => listMoods_unlisted holds service verdict habsent hid
    line_mood := fun mood hmood conversation new line hnew =>
      createLine_mood holds service verdict hmood hnew
    line := fun mood hmood home hhome howner new hnew =>
      createLine_goesBy holds service verdict hmood hhome howner hnew
    no_line := fun habsent conversation new hnew =>
      createLine_refused holds service verdict habsent hnew conversation
    set_protected := fun eyes tongue given => by
      rcases hreserved with ⟨mood, hbuiltin⟩ | hfree
      · rw [((writes_reserved service verdict hbuiltin).1 eyes tongue).1]
        simp [hbuiltin, eq_comm]
      · obtain ⟨_, hwritten, -⟩ := setMood_written holds service verdict hfree eyes tongue
        rw [hwritten]
        simp [hfree]
    set_kept := fun mood hbuiltin eyes tongue =>
      ((writes_reserved service verdict hbuiltin).1 eyes tongue).2
    set_written := setMood_written holds service verdict
    delete_protected := fun given => by
      rcases hreserved with ⟨mood, hbuiltin⟩ | hfree
      · rw [(writes_reserved service verdict hbuiltin).2.1]
        simp [hbuiltin, eq_comm]
      · exact iff_of_false ((deleteMood_unreserved holds service verdict hfree).1 given)
          fun h => h.2.elim hfree
    delete_kept := fun mood hbuiltin => (writes_reserved service verdict hbuiltin).2.2
    delete_missing := by
      rcases hreserved with ⟨mood, hbuiltin⟩ | hfree
      · rw [(writes_reserved service verdict hbuiltin).2.1]
        simp [hbuiltin]
      · exact (deleteMood_unreserved holds service verdict hfree).2 }

end GoesBy

/-- **A mood name means the same everywhere.** In every store that services with whatever built-in
moods can leave, a name has exactly one of three meanings for an owner, and so has every other
spelling of it; and all operations on it, through a service with whatever built-in moods, go by that
meaning. -/
theorem mood_names_mean_the_same_everywhere {world : World ρ}
    (reachable : Reachable catalogs world.database) (service : Service ρ) (owner name : String) :
    ∃ rows, world.database.rows = some rows ∧ ∃ meaning,
      (∀ same, foldCase same = foldCase name → ∀ other,
        Moods.Verdict service.builtins rows owner same other ↔ other = meaning) ∧
      ∀ same, foldCase same = foldCase name → GoesBy service world rows owner same meaning := by
  obtain ⟨rows, holds⟩ := reachable.holds
  obtain ⟨meaning, hmeaning⟩ := holds.exists_verdict service.builtins owner name
  have verdict : Moods.Verdict service.builtins rows owner name meaning := (hmeaning _).mpr rfl
  refine ⟨rows, holds.1, meaning, fun same hsame other => ?_, fun same hsame =>
    goesBy holds service (verdict.congr hsame)⟩
  rw [← hmeaning other]
  exact ⟨fun h => h.congr hsame.symm, fun h => h.congr hsame⟩

/-- A mood of Ann's does not count for a service that has a built-in mood with its name. -/
theorem shadowed_mood_does_not_count :
    let paint : Turn := ⟨builtinMoods, .setMood "ann" "calm" "oo" "  ", fun _ => 0⟩
    let calm : Mood := .builtin "Calm" "^^" "  "
    let service : Service Unit := ⟨⟨[calm]⟩, pure 0⟩
    let world : World Unit := ⟨paint.after .fresh, [], ()⟩
    Reachable {builtinMoods} world.database ∧
      world.database.rows.map Rows.moods = some [⟨1, "ann", "calm", "calm", "oo", "  "⟩] ∧
      (service.getMood "ann" "CALM" world).1 = .ok calm ∧
      (service.deleteMood "ann" "CALM" world).1 = .error (.protectedEntity "CALM") ∧
      (service.deleteMood "ann" "CALM" world).2.database = world.database := by
  intro paint calm service world
  have reachable : Reachable {builtinMoods} world.database :=
    paint.reaches (Set.mem_singleton _) .fresh
  have hcalm : foldCase calm.name = foldCase "CALM" := by decide +kernel
  obtain ⟨rows, -, meaning, hmeaning, hgoes⟩ :=
    mood_names_mean_the_same_everywhere reachable service "ann" "CALM"
  have hverdict : Moods.Meaning.builtin calm = meaning :=
    (hmeaning "CALM" rfl _).mp (.builtin (List.nil_append _).symm hcalm nofun)
  have hall := hgoes "CALM" rfl
  exact ⟨reachable, by decide +kernel, by rw [hall.get, ← hverdict]; rfl,
    (hall.delete_protected _).mpr ⟨rfl, calm, hverdict.symm⟩, hall.delete_kept calm hverdict.symm⟩

end MoodStore
