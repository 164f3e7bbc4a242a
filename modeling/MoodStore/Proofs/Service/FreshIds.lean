import MoodStore.Proofs.Account.Refinement
import MoodStore.Proofs.Service.Atomicity

/-!
Uninterrupted creations get the first id that is free.

An id is taken while a live row has it, a conversation of any owner or a line of any conversation.
If nobody interrupts a creation, it draws ids until one is free and inserts its row under that one,
or gives up after the last attempt. A deletion frees the ids of the rows that it deletes, and no
others.
-/

namespace MoodStore

variable {α : Type} {catalogs : Set (Catalog Mood)} {rows : Rows}

/-! ### The first free id -/

/-- The id that attempt number `i` draws, counted from 0. -/
def World.idAt (world : World ℕ) (draws : ℕ → UInt64) (kind : Kind) (i : ℕ) : String :=
  publicId kind.tag (draws (world.source + i))

namespace Rows

/-- Number `i` is the first of the attempts whose id no row has. -/
structure FirstFree (rows : Rows) (kind : Kind) (ids : ℕ → String) (i : ℕ) : Prop where
  attempt : i < Ids.maxAttempts
  free : rows.isTaken kind (ids i) = false
  before : ∀ j < i, rows.isTaken kind (ids j) = true

/-- All attempts draw ids that rows have. -/
def AllTaken (rows : Rows) (kind : Kind) (ids : ℕ → String) : Prop :=
  ∀ i < Ids.maxAttempts, rows.isTaken kind (ids i) = true

section Picked

variable {draws : ℕ → UInt64} {world : World ℕ} {kind : Kind} {i : ℕ}

lemma drawn_eq_map (count : ℕ) :
    Ids.drawn kind.tag draws world.source count =
      (List.range count).map (world.idAt draws kind) := rfl

namespace FirstFree

lemma pick?_eq (first : rows.FirstFree kind (world.idAt draws kind) i) :
    rows.pick? draws world.source kind = some (world.idAt draws kind i) := by
  have hfind : (List.range Ids.maxAttempts).find?
      ((fun id => !rows.isTaken kind id) ∘ world.idAt draws kind) = some i := by
    refine List.find?_range_eq_some.mpr ⟨?_, List.mem_range.mpr first.attempt, fun j hj => ?_⟩
    · rw [Function.comp_apply, first.free, Bool.not_false]
    · rw [Function.comp_apply, first.before j hj, Bool.not_true, Bool.not_false]
  rw [pick?, drawn_eq_map, List.find?_map, hfind, Option.map_some]

lemma spent_eq (first : rows.FirstFree kind (world.idAt draws kind) i) :
    rows.spent draws world.source kind = i + 1 := by
  have hindex : ((List.range Ids.maxAttempts).map (world.idAt draws kind)).findIdx
      (fun id => !rows.isTaken kind id) = i := by
    rw [List.findIdx_eq (by simpa using first.attempt)]
    refine ⟨by simp [first.free], fun j hj => ?_⟩
    simp [first.before j hj]
  have hattempt := first.attempt
  rw [spent, drawn_eq_map, hindex]
  omega

end FirstFree

namespace AllTaken

lemma pick?_eq (taken : rows.AllTaken kind (world.idAt draws kind)) :
    rows.pick? draws world.source kind = none := by
  rw [pick?, drawn_eq_map, List.find?_eq_none]
  intro id hid
  obtain ⟨i, hi, rfl⟩ := List.mem_map.mp hid
  rw [taken i (List.mem_range.mp hi)]
  exact Bool.false_ne_true

lemma spent_eq (taken : rows.AllTaken kind (world.idAt draws kind)) :
    rows.spent draws world.source kind = Ids.maxAttempts := by
  have hindex : ((List.range Ids.maxAttempts).map (world.idAt draws kind)).findIdx
      (fun id => !rows.isTaken kind id) = Ids.maxAttempts := by
    rw [List.findIdx_eq_length_of_false, List.length_map, List.length_range]
    intro id hid
    obtain ⟨i, hi, rfl⟩ := List.mem_map.mp hid
    rw [taken i (List.mem_range.mp hi), Bool.not_true]
  rw [spent, drawn_eq_map, hindex]
  omega

end AllTaken

lemma AllTaken.of_not_firstFree {ids : ℕ → String} (h : ∀ i, ¬rows.FirstFree kind ids i) :
    rows.AllTaken kind ids := by
  intro i hi
  induction i using Nat.strong_induction_on with
  | _ i ih =>
    by_contra hfree
    rw [Bool.not_eq_true] at hfree
    exact h i ⟨hi, hfree, fun j hj => ih j hj (hj.trans hi)⟩

end Picked

end Rows

/-! ### Creations -/

/-- A creation ends under the first free id, with one draw for each attempt up to it, or it gives
up. -/
structure TakesFirstFree (rows : Rows) (kind : Kind) (draws : ℕ → UInt64) (world : World ℕ)
    (made : String → α) (grown : String → Rows) (outcome : Except Error α × World ℕ) : Prop where
  created : ∀ i, rows.FirstFree kind (world.idAt draws kind) i →
    outcome.1 = .ok (made (world.idAt draws kind i)) ∧
      outcome.2.database =
        { world.database with rows := some (grown (world.idAt draws kind i)) } ∧
      outcome.2.source = world.source + (i + 1)
  exhausted : (∀ i, ¬rows.FirstFree kind (world.idAt draws kind) i) →
    outcome.1 = .error (.internal (.idSpaceExhausted kind.tag Ids.maxAttempts)) ∧
      outcome.2.database = world.database ∧
      outcome.2.source = world.source + Ids.maxAttempts

namespace TakesFirstFree

variable {kind : Kind} {draws : ℕ → UInt64} {world : World ℕ} {made : String → α}
  {grown : String → Rows}

lemma of_pick {log : List Event} {inserted : String → Rows}
    (hrows : world.database.rows = some rows)
    (hinserted : ∀ id, rows.isTaken kind id = false → inserted id = grown id)
    {outcome : Except Error α × World ℕ}
    (houtcome : outcome = (match rows.pick? draws world.source kind with
        | some id => .ok (made id)
        | none => .error (.internal (.idSpaceExhausted kind.tag Ids.maxAttempts)),
      { database := { world.database with
          rows := some ((rows.pick? draws world.source kind).elim rows inserted) }
        log
        source := world.source + rows.spent draws world.source kind })) :
    TakesFirstFree rows kind draws world made grown outcome := by
  subst houtcome
  constructor
  · intro i first
    simp only [first.pick?_eq, first.spent_eq, Option.elim_some, hinserted _ first.free, and_self]
  · intro hnone
    have taken : rows.AllTaken kind (world.idAt draws kind) := .of_not_firstFree hnone
    simp only [taken.pick?_eq, taken.spent_eq, Option.elim_none, ← hrows, and_self]

lemma logged {operation : Operation ℕ α}
    (h : TakesFirstFree rows kind draws world made grown (operation world)) (name : String) :
    TakesFirstFree rows kind draws world made grown (Service.logged name operation world) where
  created i first := by
    rw [Service.logged_answer, Service.logged_database, Service.logged_source]
    exact h.created i first
  exhausted hnone := by
    rw [Service.logged_answer, Service.logged_database, Service.logged_source]
    exact h.exhausted hnone

end TakesFirstFree

/-- How the creation of a line ends. Nothing is drawn if its mood or its conversation is missing. -/
structure LineTakesFirstFree (rows : Rows) (builtins : Catalog Mood) (draws : ℕ → UInt64)
    (world : World ℕ) (owner conversation : String) (new : NewLine)
    (outcome : Except Error Line × World ℕ) : Prop where
  found : ∀ mood home, Moods.get builtins owner new.mood world.database = .ok mood →
    rows.findConversation? owner conversation = some home →
    ∃ meaning, Moods.meaning builtins owner new.mood world.database = .ok meaning ∧
      TakesFirstFree rows .line draws world
        (fun id => ⟨id, new.animal, new.think, new.text, mood⟩)
        (fun id => rows.withLine { Conversations.newRow home meaning.row? mood.name id new with
          id := rows.lastLine + 1 })
        outcome
  noMood : (∀ mood, Moods.get builtins owner new.mood world.database ≠ .ok mood) →
    outcome.1 = .error (Conversations.unknownMood new.mood) ∧
      outcome.2.database = world.database ∧ outcome.2.source = world.source
  noConversation : ∀ mood, Moods.get builtins owner new.mood world.database = .ok mood →
    rows.findConversation? owner conversation = none →
    outcome.1 = .error .notFound ∧
      outcome.2.database = world.database ∧ outcome.2.source = world.source

lemma LineTakesFirstFree.logged {builtins : Catalog Mood} {draws : ℕ → UInt64} {world : World ℕ}
    {owner conversation : String} {new : NewLine} {operation : Operation ℕ Line}
    (h : LineTakesFirstFree rows builtins draws world owner conversation new (operation world))
    (name : String) :
    LineTakesFirstFree rows builtins draws world owner conversation new
      (Service.logged name operation world) where
  found mood home hmood hhome :=
    (h.found mood home hmood hhome).imp fun _ hfound => ⟨hfound.1, hfound.2.logged name⟩
  noMood hmood := by
    rw [Service.logged_answer, Service.logged_database, Service.logged_source]
    exact h.noMood hmood
  noConversation mood hmood hhome := by
    rw [Service.logged_answer, Service.logged_database, Service.logged_source]
    exact h.noConversation mood hmood hhome

section Creations

variable {world : World ℕ} (holds : world.database.Holds catalogs rows) (draws : ℕ → UInt64)

include holds

lemma create_takesFirstFree (owner heading : String) :
    TakesFirstFree rows .conversation draws world (fun id => ⟨id, heading, []⟩)
      (fun id => rows.withConversation ⟨rows.lastConversation + 1, id, owner, heading⟩)
      (Conversations.create (drawFrom draws) owner heading world) := by
  obtain ⟨log, hcreate⟩ := create_drawFrom holds draws owner heading
  refine .of_pick holds.1 (fun id hfree => ?_) hcreate
  rw [Rows.insertConversation_of_free owner heading hfree]
  rfl

lemma createLine_takesFirstFree (builtins : Catalog Mood) (owner conversation : String)
    (new : NewLine) :
    LineTakesFirstFree rows builtins draws world owner conversation new
      (Conversations.createLine builtins (drawFrom draws) owner conversation new world) := by
  obtain ⟨meaning, hmeaning, -, hlive⟩ := holds.meaning_eq builtins owner new.mood
  have hget : Moods.get builtins owner new.mood world.database =
      meaning.mood?.elim (.error .notFound) .ok := by
    rw [Moods.get, hmeaning]
    cases hmood : meaning.mood? <;> simp only [bind, Except.bind, hmood] <;> rfl
  have hcreate := Conversations.createLine_apply builtins (drawFrom draws) owner conversation new
    world
  simp only [hmeaning, Conversations.find?_of_rows holds.1] at hcreate
  cases hmood : meaning.mood? with
  | none =>
    simp only [hmood, Option.elim_none] at hget hcreate
    rw [hcreate]
    refine ⟨fun mood _ h => ?_, fun _ => ⟨rfl, rfl, rfl⟩, fun mood h => ?_⟩
    · cases hget.symm.trans h
    · cases hget.symm.trans h
  | some mood =>
    -- both lookups are made before the first draw
    simp only [hmood, Option.elim_some] at hget hcreate
    refine ⟨fun mood' home h hhome => ?_, fun h => absurd hget (h mood), fun _ _ hhome => ?_⟩
    · obtain rfl := Except.ok.inj (hget.symm.trans h)
      have hmem := (holds.2.findConversation?_eq_some_iff.mp hhome).1
      obtain ⟨log, hinsert⟩ := insertLine_drawFrom holds draws hmem hlive owner mood new
      simp only [hhome] at hcreate
      refine ⟨meaning, hmeaning, .of_pick holds.1 (fun id hfree => ?_) (hcreate.trans hinsert)⟩
      let row := Conversations.newRow home meaning.row? mood.name id new
      have hfree' : rows.lines.any (fun other => other.publicId == row.publicId) = false := hfree
      have hlive' : rows.refersToLive row = true :=
        refersToLive_newRow hmem hlive mood.name id new
      rw [Rows.insertLine_of_live hfree' hlive']
      rfl
    · simp only [hhome] at hcreate
      rw [hcreate]
      exact ⟨rfl, rfl, rfl⟩

end Creations

/-! ### Deletions -/

/-- A deletion succeeds; it frees these ids of conversations and of lines, and no others. -/
structure Frees (rows : Rows) (conversations lines : List String)
    (outcome : Except Error Unit × World ℕ) : Prop where
  answer : outcome.1 = .ok ()
  left : ∃ rows', outcome.2.database.rows = some rows' ∧
    (∀ id, rows'.isTaken .conversation id = true ↔
      rows.isTaken .conversation id = true ∧ id ∉ conversations) ∧
    ∀ id, rows'.isTaken .line id = true ↔ rows.isTaken .line id = true ∧ id ∉ lines

lemma Frees.logged {conversations lines : List String} {world : World ℕ}
    {operation : Operation ℕ Unit} (h : Frees rows conversations lines (operation world))
    (name : String) : Frees rows conversations lines (Service.logged name operation world) where
  answer := by rw [Service.logged_answer, h.answer]
  left := by rw [Service.logged_database]; exact h.left

lemma any_filter_not_iff {β : Type} {publicId : β → String} {table : List β}
    (hdistinct : (table.map publicId).Nodup) (p : β → Bool) (id : String) :
    ((table.filter fun row => !p row).any fun row => publicId row == id) = true ↔
      (table.any fun row => publicId row == id) = true ∧ id ∉ (table.filter p).map publicId := by
  simp only [List.any_eq_true, List.mem_filter, List.mem_map, beq_iff_eq, not_exists, not_and]
  constructor
  · rintro ⟨row, ⟨hrow, hkept⟩, rfl⟩
    refine ⟨⟨row, hrow, rfl⟩, fun other hother hid => ?_⟩
    -- a row that goes shares its id with none that stays
    obtain rfl := List.inj_on_of_nodup_map hdistinct hother.1 hrow hid
    rw [hother.2] at hkept
    exact Bool.noConfusion hkept
  · rintro ⟨⟨row, hrow, rfl⟩, hkept⟩
    have hnot : p row = false := Bool.eq_false_iff.mpr fun hgone => hkept row ⟨hrow, hgone⟩ rfl
    exact ⟨row, ⟨hrow, by rw [hnot, Bool.not_false]⟩, rfl⟩

section Deletions

variable {world : World ℕ} (holds : world.database.Holds catalogs rows)

include holds

lemma delete_frees {owner id : String} {home : ConversationRow}
    (hhome : rows.findConversation? owner id = some home) :
    Frees rows [id] ((rows.linesOf home.id).map LineRow.publicId)
      (Conversations.delete owner id world) := by
  obtain ⟨-, -, rfl⟩ := holds.2.findConversation?_eq_some_iff.mp hhome
  rw [Conversations.delete_apply, Operation.executing_apply, Database.write_of_rows holds.1,
    holds.2.deleteConversation_of_some hhome]
  refine ⟨rfl, _, rfl, fun other => ?_, fun other => ?_⟩
  -- ids are unique among all owners, so no other row can keep the id of the deleted one
  · have hgone : (rows.conversations.filter (Rows.isConversation owner home.publicId)).map
        ConversationRow.publicId = [home.publicId] := by
      rw [holds.2.filter_isConversation, hhome]
      rfl
    rw [← hgone]
    exact any_filter_not_iff holds.2.conversation_distinct _ other
  · have hgone : rows.linesOf home.id =
        rows.lines.filter fun line => home.id == line.conversation :=
      List.filter_congr fun line _ => Bool.beq_comm
    rw [hgone]
    exact any_filter_not_iff holds.2.line_distinct _ other

lemma deleteLine_frees {owner conversation id : String} {line : LineRow}
    (hline : rows.findLine? owner conversation id = some line) :
    Frees rows [] [id] (Conversations.deleteLine owner conversation id world) := by
  obtain ⟨hcount, -⟩ := holds.2.deleteLine_leaves hline
  rw [Conversations.deleteLine_apply, Operation.executing_apply, Database.write_of_rows holds.1,
    hcount]
  refine ⟨rfl, _, rfl, fun other => ?_, fun other => ?_⟩
  · exact (and_iff_left List.not_mem_nil).symm
  · have hgone : (rows.lines.filter fun line =>
        line.publicId == id && rows.isLineOf owner conversation line).map LineRow.publicId =
        [id] := by
      have hid := List.find?_some hline
      rw [Bool.and_eq_true, beq_iff_eq] at hid
      rw [holds.2.filter_isLineOf, hline, ← hid.1]
      rfl
    rw [← hgone]
    exact any_filter_not_iff holds.2.line_distinct _ other

end Deletions

/-! ### Ids of two kinds -/

lemma publicId_conversation_ne_line (draw draw' : UInt64) :
    publicId conversationTag draw ≠ publicId lineTag draw' := by
  intro heq
  have hlist := congrArg String.toList heq
  simp only [publicId, String.toList_append] at hlist
  -- the tags differ in their first characters
  have hhead : conversationTag.toList.head? = lineTag.toList.head? := by
    have htags : conversationTag.toList ≠ [] ∧ lineTag.toList ≠ [] := by decide
    simpa only [List.head?_append_of_ne_nil _ htags.1, List.head?_append_of_ne_nil _ htags.2]
      using congrArg List.head? hlist
  exact absurd hhead (by decide)

/-- **New rows get the first drawn id that is free.** In every database that the service can leave
behind, a creation that nobody interrupts inserts its row under the first drawn id that no live row
of any owner has, and consumes the draws up to that one; if all ids are taken, it fails, has used up
its attempts and changes nothing. A line whose mood or conversation does not exist is refused
without a draw. A deleted conversation frees its id and those of its lines, and a deleted line its
own. An id of a conversation is never that of a line. -/
theorem new_rows_get_first_free_ids (builtins : Catalog Mood) (draws : ℕ → UInt64)
    {world : World ℕ} (reachable : Reachable catalogs world.database) :
    let service : Service ℕ := ⟨builtins, drawFrom draws⟩
    ∃ rows, world.database.rows = some rows ∧
      (∀ owner heading, TakesFirstFree rows .conversation draws world (fun id => ⟨id, heading, []⟩)
        (fun id => rows.withConversation ⟨rows.lastConversation + 1, id, owner, heading⟩)
        (service.createConversation owner heading world)) ∧
      (∀ owner conversation new, LineTakesFirstFree rows builtins draws world owner conversation new
        (service.createLine owner conversation new world)) ∧
      (∀ owner id home, rows.findConversation? owner id = some home →
        Frees rows [id] ((rows.linesOf home.id).map LineRow.publicId)
          (service.deleteConversation owner id world)) ∧
      (∀ owner conversation id line, rows.findLine? owner conversation id = some line →
        Frees rows [] [id] (service.deleteLine owner conversation id world)) ∧
      ∀ draw draw', publicId conversationTag draw ≠ publicId lineTag draw' := by
  intro service
  obtain ⟨rows, holds⟩ := reachable.holds
  exact ⟨rows, holds.1,
    fun owner heading => (create_takesFirstFree holds draws owner heading).logged _,
    fun owner conversation new =>
      (createLine_takesFirstFree holds draws builtins owner conversation new).logged _,
    fun owner id home hhome => (delete_frees holds hhome).logged _,
    fun owner conversation id line hline => (deleteLine_frees holds hline).logged _,
    publicId_conversation_ne_line⟩

/-- Ann draws an id of Bob twice before she gets another one. Had Bob deleted his conversation, she
would have got its id. -/
theorem new_conversation_gets_third_id :
    let bob : Turn := ⟨builtinMoods, .createConversation "bob" "notes", fun _ => 7⟩
    let world : World ℕ := ⟨bob.after .fresh, [], 0⟩
    let draws (i : ℕ) : UInt64 := if i < 2 then 7 else 40
    let service : Service ℕ := ⟨builtinMoods, drawFrom draws⟩
    let outcome := service.createConversation "ann" "plans" world
    let deleted := (service.deleteConversation "bob" "cv_7" world).2
    Reachable {builtinMoods} world.database ∧
      outcome.1 = .ok ⟨"cv_14", "plans", []⟩ ∧ outcome.2.source = 3 ∧
      outcome.2.database.rows.map Rows.conversations =
        some [⟨1, "cv_7", "bob", "notes"⟩, ⟨2, "cv_14", "ann", "plans"⟩] ∧
      (service.createConversation "ann" "plans" deleted).1 = .ok ⟨"cv_7", "plans", []⟩ := by
  intro bob world draws service outcome deleted
  have reachable : Reachable {builtinMoods} world.database :=
    bob.reaches (Set.mem_singleton _) .fresh
  obtain ⟨rows, hrows, hcreate, -⟩ := new_rows_get_first_free_ids builtinMoods draws reachable
  have hstored : world.database.rows = some ⟨[], [⟨1, "cv_7", "bob", "notes"⟩], [], 0, 1, 0⟩ := by
    decide +kernel
  obtain rfl := Option.some_inj.mp (hrows.symm.trans hstored)
  have hid : world.idAt draws .conversation 2 = "cv_14" := by decide +kernel
  obtain ⟨hanswer, hdatabase, hsource⟩ := (hcreate "ann" "plans").created 2
    ⟨by decide, by decide +kernel, by decide +kernel⟩
  rw [hid] at hanswer hdatabase
  refine ⟨reachable, hanswer, hsource, ?_, by decide +kernel⟩
  rw [hdatabase]
  rfl

end MoodStore
