import MoodStore.Proofs.Account.Turns

/-!
Calls act on accounts.

Whatever the tables hold, a call answers what it would answer on the account of its owner, and
leaves that account as the account itself would become. It sees nothing of other accounts, but for
the ids that they have taken, and changes nothing of them.
-/

namespace MoodStore

open Listing

variable {ρ α β : Type} {catalogs : Set (Catalog Mood)} {rows : Rows}

/-! ### Listings -/

lemma findIdx?_of_find? {id : β → ℕ} {table : List β} (hs : table.Pairwise fun a b => id a < id b)
    (p : β → Bool) (display : β → α) :
    (((table.find? p).map id).bind fun place =>
      (inOrder (table.map fun row => (id row, display row))).findIdx? fun row => row.1 = place) =
      table.findIdx? p := by
  have hpairs : (table.map fun row => (id row, display row)).Pairwise fun a b => a.1 < b.1 := by
    rw [List.pairwise_map]
    exact hs
  rw [inOrder_eq_self hpairs]
  cases hfound : table.findIdx? p with
  | none =>
    have hnone : table.find? p = none := by
      rw [List.find?_eq_none]
      intro row hrow
      rw [List.findIdx?_eq_none_iff.mp hfound row hrow]
      exact Bool.false_ne_true
    rw [hnone]
    rfl
  | some index =>
    obtain ⟨hlt, hp, hfirst⟩ := List.findIdx?_eq_some_iff_getElem.mp hfound
    have hfind : table.find? p = some table[index] :=
      List.find?_eq_some_iff_getElem.mpr ⟨hp, index, hlt, rfl, fun j hj => by
        simpa using hfirst j hj⟩
    rw [hfind, Option.map_some, Option.bind_some, List.findIdx?_eq_some_iff_getElem]
    refine ⟨by simpa using hlt, by simp, fun j hj => ?_⟩
    -- rows before it have smaller ids, so none of them is the one that was found
    have hne := List.pairwise_iff_getElem.mp hs j index (by omega) hlt hj
    simp only [List.getElem_map, decide_eq_true_eq]
    omega

namespace Database.Holds

variable {db : Database} (holds : db.Holds catalogs rows)

include holds

lemma listMoods_eq (builtins : Catalog Mood) (owner : String) (query : Query) :
    Moods.list builtins owner query db = (rows.account owner).listMoods builtins query := by
  have hs : (rows.moodsOf owner).Pairwise fun a b => a.id < b.id :=
    holds.2.moods.ascending.filter _
  have hpairs : (rows.numberedMoods owner).Pairwise fun a b => a.1 < b.1 := by
    rw [Rows.numberedMoods, List.pairwise_map]
    exact hs
  have horder : wholeOrder builtins (rows.numberedMoods owner) =
      (rows.account owner).moods ++ builtins.entries := by
    rw [wholeOrder, inOrder_eq_self hpairs, Rows.numberedMoods, List.map_map]
    rfl
  have hindex : indexOf? builtins (rows.numberedMoods owner) (rows.moodId? owner) =
      (rows.account owner).moodIndex? builtins := by
    funext name
    unfold indexOf? Account.moodIndex?
    cases builtins.position? name with
    | some index => simp [Rows.numberedMoods, Rows.account]
    | none =>
      have hid : rows.moodId? owner name = ((rows.moodsOf owner).find? fun row =>
          Account.hasKey (foldCase name) row.toMood).map MoodRow.id := by
        rw [Rows.moodId?_eq]
        exact congrArg _ (Rows.find?_congr_of_mem fun row hrow =>
          (holds.2.hasKey_toMood (Rows.mem_moodsOf.mp hrow).1 _).symm)
      simp only [hid, Rows.numberedMoods, findIdx?_of_find? hs, Rows.account, List.findIdx?_map]
      rfl
  rw [Moods.list, list_eq_answer (Moods.tier_promises holds owner), horder, hindex]
  rfl

lemma listConversations_eq (owner : String) (query : Query) :
    Conversations.list owner query db = (rows.account owner).listConversations query := by
  have hs : (rows.conversationsOf owner).Pairwise fun a b => a.id < b.id :=
    holds.2.conversations.ascending.filter _
  have hpairs : (rows.numberedConversations owner).Pairwise fun a b => a.1 < b.1 := by
    rw [Rows.numberedConversations, List.pairwise_map]
    exact hs
  have horder : wholeOrder Catalog.empty (rows.numberedConversations owner) =
      (rows.account owner).documents.map Document.toConversation := by
    rw [wholeOrder, inOrder_eq_self hpairs, Rows.numberedConversations, List.map_map,
      Rows.account, List.map_map]
    exact List.append_nil _
  have hindex : indexOf? Catalog.empty (rows.numberedConversations owner)
      (rows.conversationId? owner) =
      fun id => (rows.account owner).documents.findIdx? fun document => document.id == id := by
    funext id
    simp only [indexOf?, Rows.conversationId?_eq, Rows.numberedConversations, findIdx?_of_find? hs,
      Rows.account, List.findIdx?_map]
    rfl
  rw [Conversations.list, list_eq_answer (Conversations.tier_promises holds owner), horder, hindex]
  rfl

/-! ### Single moods, conversations and lines -/

lemma meaning_eq (builtins : Catalog Mood) (owner name : String) :
    ∃ meaning, Moods.meaning builtins owner name db = .ok meaning ∧
      (rows.account owner).meaning? builtins name =
        meaning.mood?.map (fun mood => (mood, meaning.row?.isSome)) ∧
      ∀ row ∈ meaning.row?, row ∈ rows.moods := by
  rw [Moods.meaning_of_rows holds.1, Account.meaning?]
  refine ⟨_, rfl, ?_⟩
  cases builtins.get? name with
  | some mood => exact ⟨rfl, by simp [Moods.Meaning.row?]⟩
  | none =>
    rw [holds.2.account_mood?]
    cases hfind : rows.findMood? owner (foldCase name) with
    | none => exact ⟨rfl, by simp [Moods.Meaning.row?]⟩
    | some row =>
      refine ⟨rfl, fun other hother => ?_⟩
      obtain rfl : row = other := by simpa [Moods.Meaning.row?] using hother
      exact List.mem_of_find?_eq_some hfind

lemma getMood_eq (builtins : Catalog Mood) (owner name : String) :
    Moods.get builtins owner name db = (rows.account owner).getMood builtins name := by
  obtain ⟨meaning, hmeaning, haccount, -⟩ := holds.meaning_eq builtins owner name
  rw [Moods.get, hmeaning, Account.getMood, haccount]
  cases meaning <;> rfl

lemma getConversation_eq (builtins : Catalog Mood) (owner id : String) :
    Conversations.get builtins owner id db = (rows.account owner).getConversation builtins id := by
  rw [Conversations.get, Database.rowsOrError_of_rows holds.1, Account.getConversation,
    Rows.account_document?]
  cases hfind : rows.findConversation? owner id with
  | none =>
    simp only [bind, Except.bind, hfind]
    rfl
  | some row =>
    obtain ⟨hrow, rfl, -⟩ := holds.2.findConversation?_eq_some_iff.mp hfind
    simp only [Option.map_some, ← holds.2.mapM_showLine_eq builtins hrow, bind, Except.bind, hfind]
    rfl

lemma getLine_eq (builtins : Catalog Mood) (owner conversation id : String) :
    Conversations.getLine builtins owner conversation id db =
      (rows.account owner).getLine builtins conversation id := by
  rw [Conversations.getLine, Database.rowsOrError_of_rows holds.1, Account.getLine,
    holds.2.account_note?]
  cases hfind : rows.findLine? owner conversation id with
  | none =>
    simp only [bind, Except.bind, hfind]
    rfl
  | some line =>
    have hline := List.find?_some hfind
    rw [Bool.and_eq_true, Rows.isLineOf, List.any_eq_true] at hline
    obtain ⟨-, home, hhome, hid⟩ := hline
    rw [Bool.and_eq_true, Rows.isConversation_iff, beq_iff_eq] at hid
    obtain ⟨⟨rfl, -⟩, hid⟩ := hid
    have hshow := holds.2.showLine_eq builtins (List.mem_of_find?_eq_some hfind) hhome hid
    simp only [bind, Except.bind, hfind, Option.map_some, hshow]

end Database.Holds

/-! ### Operations that write -/

/-- An operation has answered as the account of its owner does, and has left the tables as the
account would be left and the source of draws in this state. -/
structure Follows (rows : Rows) (owner : String) (expected : Except Error α × Account) (source : ρ)
    (outcome : Except Error α × World ρ) : Prop where
  answer : outcome.1 = expected.1
  leaves : ∃ rows', outcome.2.database.rows = some rows' ∧ rows.Leaves owner expected.2 rows'
  source : outcome.2.source = source

namespace Follows

variable {owner : String} {world : World ρ} {source : ρ} {expected : Except Error α × Account}

lemma unchanged (h : world.database.rows = some rows) (answer : Except Error α) :
    Follows rows owner (answer, rows.account owner) world.source (answer, world) :=
  ⟨rfl, ⟨rows, h, .refl rows owner⟩, rfl⟩

lemma reading (h : world.database.rows = some rows) {query : Database → Except Error α}
    {answer : Except Error α} (hanswer : query world.database = answer) :
    Follows rows owner (answer, rows.account owner) world.source
      (Operation.reading query world) :=
  ⟨hanswer, ⟨rows, h, .refl rows owner⟩, rfl⟩

lemma logged {operation : Operation ρ α} (h : Follows rows owner expected source (operation world))
    (name : String) : Follows rows owner expected source (Service.logged name operation world) where
  answer := by rw [Service.logged_answer, h.answer]
  leaves := by rw [Service.logged_database]; exact h.leaves
  source := by rw [Service.logged_source, h.source]

lemma map {operation : Operation ρ α} (h : Follows rows owner expected source (operation world))
    (f : α → β) :
    Follows rows owner (expected.1.map f, expected.2) source ((f <$> operation) world) := by
  rw [Operation.map_apply]
  exact ⟨congrArg (Except.map f) h.answer, h.leaves, h.source⟩

end Follows

section Operations

variable {world : World ρ} (holds : world.database.Holds catalogs rows)

include holds

lemma set_follows (builtins : Catalog Mood) (owner name eyes tongue : String) :
    Follows rows owner ((rows.account owner).setMood builtins name eyes tongue) world.source
      (Moods.set builtins owner name eyes tongue world) := by
  obtain ⟨hwrite, hleaves⟩ := holds.2.writeMood_leaves owner name eyes tongue
  rw [Moods.set_apply, Account.setMood]
  cases builtins.contains name with
  | true => exact .unchanged holds.1 _
  | false =>
    simp only [Bool.false_eq_true, if_false, Operation.executing_apply,
      Database.write_of_rows holds.1]
    exact ⟨congrArg Except.ok hwrite, ⟨_, rfl, hleaves⟩, rfl⟩

lemma setMood_follows (service : Service ρ) (owner name eyes tongue : String) :
    Follows rows owner ((rows.account owner).setMood service.builtins name eyes tongue)
      world.source (service.setMood owner name eyes tongue world) := by
  obtain ⟨log, hset⟩ := service.setMood_apply owner name eyes tongue world
  have hfollows := set_follows holds service.builtins owner name eyes tongue
  rw [hset]
  exact ⟨hfollows.answer, hfollows.leaves, hfollows.source⟩

lemma delete_follows (builtins : Catalog Mood) (owner name : String) :
    Follows rows owner ((rows.account owner).deleteMood builtins name) world.source
      (Moods.delete builtins owner name world) := by
  rw [Moods.delete_apply, Account.deleteMood, holds.2.account_mood?]
  cases builtins.contains name with
  | true => exact .unchanged holds.1 _
  | false =>
    simp only [Bool.false_eq_true, if_false, Guard.deleteOrReport_apply, World.execute,
      Database.write_of_rows holds.1]
    cases hfind : rows.findMood? owner (foldCase name) with
    | none =>
      rw [Rows.deleteMood_of_absent hfind]
      exact ⟨rfl, ⟨rows, rfl, .refl rows owner⟩, rfl⟩
    | some row =>
      rw [if_neg (by simp)]
      by_cases huses : (rows.account owner).uses (foldCase name) = 0
      · obtain ⟨hcount, hleaves⟩ := holds.2.deleteMood_leaves hfind huses
        rw [if_pos huses, hcount]
        exact ⟨rfl, ⟨_, rfl, hleaves⟩, rfl⟩
      · rw [if_neg huses, holds.2.deleteMood_of_uses huses, ← holds.2.countLinesUsing_eq]
        exact ⟨rfl, ⟨rows, rfl, .refl rows owner⟩, rfl⟩

lemma deleteConversation_follows (owner id : String) :
    Follows rows owner ((rows.account owner).deleteConversation id) world.source
      (Conversations.delete owner id world) := by
  rw [Conversations.delete_apply, Operation.executing_apply, Database.write_of_rows holds.1,
    Account.deleteConversation, Rows.account_document?]
  cases hfind : rows.findConversation? owner id with
  | none =>
    rw [Rows.deleteConversation_of_absent hfind]
    exact ⟨rfl, ⟨rows, rfl, .refl rows owner⟩, rfl⟩
  | some row =>
    have hleaves := holds.2.deleteConversation_leaves hfind
    rw [holds.2.deleteConversation_of_some hfind] at hleaves ⊢
    exact ⟨rfl, ⟨_, rfl, hleaves⟩, rfl⟩

lemma deleteLine_follows (owner conversation id : String) :
    Follows rows owner ((rows.account owner).deleteLine conversation id) world.source
      (Conversations.deleteLine owner conversation id world) := by
  rw [Conversations.deleteLine_apply, Operation.executing_apply, Database.write_of_rows holds.1,
    Account.deleteLine, holds.2.account_note?]
  cases hfind : rows.findLine? owner conversation id with
  | none =>
    rw [Rows.deleteLine_of_absent hfind]
    exact ⟨rfl, ⟨rows, rfl, .refl rows owner⟩, rfl⟩
  | some line =>
    obtain ⟨hcount, hleaves⟩ := holds.2.deleteLine_leaves hfind
    rw [hcount]
    exact ⟨rfl, ⟨_, rfl, hleaves⟩, rfl⟩

end Operations

/-! ### Operations that draw -/

lemma refersToLive_newRow {home : ConversationRow} (hhome : home ∈ rows.conversations)
    {row? : Option MoodRow} (hmood : ∀ row ∈ row?, row ∈ rows.moods) (moodName id : String)
    (line : NewLine) :
    rows.refersToLive (Conversations.newRow home row? moodName id line) = true := by
  refine Rows.refersToLive_iff.mpr ⟨⟨home, hhome, rfl⟩, fun place hplace => ?_⟩
  obtain ⟨row, hrow, rfl⟩ := Option.map_eq_some_iff.mp hplace
  exact ⟨row, hmood row hrow, rfl⟩

section Drawing

variable {world : World ℕ} (holds : world.database.Holds catalogs rows) (draws : ℕ → UInt64)

include holds

lemma create_drawFrom (owner heading : String) :
    ∃ log, Conversations.create (drawFrom draws) owner heading world =
      (match rows.pick? draws world.source .conversation with
        | some id => .ok ⟨id, heading, []⟩
        | none => .error (.internal (.idSpaceExhausted conversationTag Ids.maxAttempts)),
      { database := { world.database with
          rows := some ((rows.pick? draws world.source .conversation).elim rows fun id =>
            (rows.insertConversation id owner heading).2) }
        log
        source := world.source + rows.spent draws world.source .conversation }) := by
  obtain ⟨log, hinsert⟩ := Ids.insertUnique_drawFrom .conversation draws
    (fun id rows => rows.insertConversation id owner heading)
    (fun id => ⟨rows.lastConversation + 1, id, owner, heading⟩)
    (fun id hfree => by rw [Rows.insertConversation_of_free owner heading hfree])
    (fun id htaken => Rows.insertConversation_of_taken owner heading htaken) holds.1
  replace hinsert : Ids.insertUnique conversationTag (drawFrom draws)
    (fun id => World.execute fun rows => rows.insertConversation id owner heading) World.emit
    world = _ := hinsert
  refine ⟨log, ?_⟩
  rw [Conversations.create_apply, hinsert]
  cases rows.pick? draws world.source .conversation <;> rfl

lemma create_follows (owner heading : String) :
    Follows rows owner ((rows.account owner).createConversation
        (rows.pick? draws world.source .conversation) heading)
      (world.source + rows.spent draws world.source .conversation)
      (Conversations.create (drawFrom draws) owner heading world) := by
  obtain ⟨log, hcreate⟩ := create_drawFrom holds draws owner heading
  rw [hcreate]
  cases hpick : rows.pick? draws world.source .conversation with
  | none => exact ⟨rfl, ⟨rows, rfl, .refl rows owner⟩, rfl⟩
  | some id =>
    have hleaves := holds.2.insertConversation_leaves (Rows.isTaken_of_pick? hpick) owner heading
    exact ⟨rfl, ⟨_, rfl, hleaves⟩, rfl⟩

lemma insertLine_drawFrom {home : ConversationRow} (hhome : home ∈ rows.conversations)
    {row? : Option MoodRow} (hmood : ∀ row ∈ row?, row ∈ rows.moods) (owner : String) (mood : Mood)
    (line : NewLine) :
    ∃ log, Conversations.insertLine (drawFrom draws) owner home row? mood line world =
      (match rows.pick? draws world.source .line with
        | some id => .ok ⟨id, line.animal, line.think, line.text, mood⟩
        | none => .error (.internal (.idSpaceExhausted lineTag Ids.maxAttempts)),
      { database := { world.database with
          rows := some ((rows.pick? draws world.source .line).elim rows fun id =>
            (rows.insertLine (Conversations.newRow home row? mood.name id line)).2) }
        log
        source := world.source + rows.spent draws world.source .line }) := by
  let row (id : String) : LineRow := Conversations.newRow home row? mood.name id line
  have hlive : ∀ id, rows.refersToLive (row id) = true := fun id =>
    refersToLive_newRow hhome hmood mood.name id line
  have hfree : ∀ id, rows.isTaken .line id = false →
      rows.lines.any (fun other => other.publicId == (row id).publicId) = false := fun _ h => h
  obtain ⟨log, hinsert⟩ := Ids.insertUnique_drawFrom .line draws
    (fun id rows => rows.insertLine (row id)) (fun id => { row id with id := rows.lastLine + 1 })
    (fun id h => by rw [Rows.insertLine_of_live (hfree id h) (hlive id)])
    (fun id h => Rows.insertLine_of_taken h) holds.1
  replace hinsert : Ids.insertUnique lineTag (drawFrom draws) (fun id => World.execute fun rows =>
    rows.insertLine (row id)) World.emit world = _ := hinsert
  refine ⟨log, ?_⟩
  rw [Conversations.insertLine_apply, hinsert]
  cases rows.pick? draws world.source .line <;> rfl

lemma insertLine_follows {owner conversation : String} {home : ConversationRow}
    (hhome : rows.findConversation? owner conversation = some home) {row? : Option MoodRow}
    (hmood : ∀ row ∈ row?, row ∈ rows.moods) (mood : Mood) (line : NewLine) :
    Follows rows owner (match rows.pick? draws world.source .line with
      | some id => (.ok ⟨id, line.animal, line.think, line.text, mood⟩,
        (rows.account owner).editNotes conversation fun notes =>
          notes ++ [⟨id, row?.isSome, mood.name, line.animal, line.think, line.text⟩])
      | none => (.error (.internal (.idSpaceExhausted lineTag Ids.maxAttempts)),
        rows.account owner))
      (world.source + rows.spent draws world.source .line)
      (Conversations.insertLine (drawFrom draws) owner home row? mood line world) := by
  have hmem := (holds.2.findConversation?_eq_some_iff.mp hhome).1
  obtain ⟨log, hinsert⟩ := insertLine_drawFrom holds draws hmem hmood owner mood line
  rw [hinsert]
  cases hpick : rows.pick? draws world.source .line with
  | none => exact ⟨rfl, ⟨rows, rfl, .refl rows owner⟩, rfl⟩
  | some id =>
    have hfree : rows.lines.any (fun other => other.publicId ==
        (Conversations.newRow home row? mood.name id line).publicId) = false :=
      Rows.isTaken_of_pick? hpick
    have hleaves := holds.2.insertLine_leaves hhome rfl hfree
      (refersToLive_newRow hmem hmood mood.name id line)
    simp only [LineRow.toNote, Conversations.newRow, Option.isSome_map] at hleaves
    exact ⟨rfl, ⟨_, rfl, hleaves⟩, rfl⟩

/-- A line whose mood or conversation does not exist is refused before anything is drawn. -/
lemma createLine_follows (builtins : Catalog Mood) (owner conversation : String) (line : NewLine) :
    let kind? := (rows.account owner).creates? builtins (.createLine owner conversation line)
    Follows rows owner ((rows.account owner).createLine builtins
        (kind?.bind (rows.pick? draws world.source)) conversation line)
      (world.source + kind?.elim 0 (rows.spent draws world.source))
      (Conversations.createLine builtins (drawFrom draws) owner conversation line world) := by
  intro kind?
  obtain ⟨meaning, hmeaning, haccount, hlive⟩ := holds.meaning_eq builtins owner line.mood
  simp only [kind?, Account.creates?, Account.createLine, Conversations.createLine_apply, hmeaning,
    haccount, Rows.account_document?, Conversations.find?_of_rows holds.1]
  cases hmood : meaning.mood? with
  | none => exact .unchanged holds.1 _
  | some mood =>
    cases hhome : rows.findConversation? owner conversation with
    | none => exact .unchanged holds.1 _
    | some home => exact insertLine_follows holds draws hhome hlive mood line

end Drawing

/-! ### Turns -/

namespace Turn

variable {db : Database} (turn : Turn)

/-- A turn answers as the account of its owner does, and draws up to the first id that is free. -/
lemma take_follows (holds : db.Holds catalogs rows) :
    Follows rows turn.call.owner
      ((rows.account turn.call.owner).perform turn.builtins (turn.newId? rows) turn.call)
      (turn.count rows) (turn.take db) := by
  obtain ⟨builtins, call, draws⟩ := turn
  have holds' : (World.mk db [] (0 : ℕ)).database.Holds catalogs rows := holds
  cases call with
  | listMoods owner query =>
    refine .map (.logged (.reading holds'.1 ?_) _) _
    exact holds.listMoods_eq builtins owner query
  | getMood owner name =>
    refine .map (.logged (.reading holds'.1 ?_) _) _
    exact holds.getMood_eq builtins owner name
  | setMood owner name eyes tongue =>
    exact .map (setMood_follows holds' ⟨builtins, drawFrom draws⟩ owner name eyes tongue) _
  | deleteMood owner name => exact .map (.logged (delete_follows holds' builtins owner name) _) _
  | listConversations owner query =>
    refine .map (.logged (.reading holds'.1 ?_) _) _
    exact holds.listConversations_eq owner query
  | createConversation owner heading =>
    have hfollows := create_follows holds' draws owner heading
    simp only [Nat.zero_add] at hfollows
    exact .map (.logged hfollows _) _
  | getConversation owner id =>
    refine .map (.logged (.reading holds'.1 ?_) _) _
    exact holds.getConversation_eq builtins owner id
  | deleteConversation owner id =>
    exact .map (.logged (deleteConversation_follows holds' owner id) _) _
  | createLine owner conversation line =>
    have hfollows := createLine_follows holds' draws builtins owner conversation line
    simp only [Nat.zero_add] at hfollows
    exact .map (.logged hfollows _) _
  | getLine owner conversation id =>
    refine .map (.logged (.reading holds'.1 ?_) _) _
    exact holds.getLine_eq builtins owner conversation id
  | deleteLine owner conversation id =>
    exact .map (.logged (deleteLine_follows holds' owner conversation id) _) _

/-- **A turn acts on the account of its owner.** It leaves sound tables, in which the account is
what it would itself become, and all other accounts are what they were. -/
theorem follows (allowed : turn.builtins ∈ catalogs) (holds : db.Holds catalogs rows) :
    ∃ rows', (turn.after db).Holds catalogs rows' ∧
      turn.answer db = ((rows.account turn.call.owner).perform turn.builtins (turn.newId? rows)
        turn.call).1 ∧
      rows.Leaves turn.call.owner ((rows.account turn.call.owner).perform turn.builtins
        (turn.newId? rows) turn.call).2 rows' ∧
      turn.handed db = (List.range (turn.count rows)).map turn.draws := by
  obtain ⟨hanswer, ⟨rows', hrows', hleaves⟩, hsource⟩ := turn.take_follows holds
  obtain ⟨rows'', hrows'', -⟩ := (turn.reaches allowed db).keeps rows holds
  obtain rfl : rows' = rows'' := Option.some_inj.mp (hrows'.symm.trans hrows''.1)
  exact ⟨rows', hrows'', hanswer, hleaves, by rw [handed, hsource]⟩

end Turn

end MoodStore
