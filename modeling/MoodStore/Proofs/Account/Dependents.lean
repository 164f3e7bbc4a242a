import MoodStore.Proofs.Account.Nested

/-!
Moods that lines refer to.

The tables refuse to delete a mood row that a line refers to by its row id, and the lines are then
counted by owner and folded name. Both speak of the same lines: a mood is deleted just when none
refers to it, and the number that is reported otherwise is theirs. Where all services have the same
built-in moods, an owner can count these lines by reading all conversations, and whoever deletes
them, alone or with their conversations, can delete the mood.
-/

namespace MoodStore

variable {ρ : Type} {catalogs : Set (Catalog Mood)} {rows rows' rows'' : Rows}
  {owner name : String}

/-! ### Lines that refer to a mood -/

/-- The row is the owner's mood with this name, however it is spelled. -/
def MoodRow.IsNamed (row : MoodRow) (owner name : String) : Prop :=
  row.owner = owner ∧ foldCase row.name = foldCase name

instance (row : MoodRow) (owner name : String) : Decidable (row.IsNamed owner name) :=
  inferInstanceAs (Decidable (_ ∧ _))

/-- The lines, of any conversations, that refer to the owner's mood with this name. -/
def Rows.dependents (rows : Rows) (owner name : String) : List LineRow :=
  rows.lines.filter fun line =>
    decide (∃ row ∈ rows.moods, row.IsNamed owner name ∧ line.mood = some row.id)

namespace Rows

lemma mem_dependents {line : LineRow} : line ∈ rows.dependents owner name ↔
    line ∈ rows.lines ∧ ∃ row ∈ rows.moods, row.IsNamed owner name ∧ line.mood = some row.id := by
  rw [dependents, List.mem_filter, decide_eq_true_iff]

namespace Sound

lemma isNamed_iff (h : rows.Sound catalogs) {row : MoodRow} (hrow : row ∈ rows.moods) :
    row.IsNamed owner name ↔ isMood owner (foldCase name) row = true := by
  rw [isMood_iff, h.key row hrow]
  rfl

lemma countLinesUsing_eq_length (h : rows.Sound catalogs) (owner name : String) :
    rows.countLinesUsing owner (foldCase name) = (rows.dependents owner name).length := by
  refine congrArg List.length (List.filter_congr fun line _ => ?_)
  rw [Bool.eq_iff_iff, decide_eq_true_iff, List.any_eq_true]
  refine exists_congr fun row => and_congr_right fun hrow => ?_
  rw [Bool.and_eq_true, beq_iff_eq, h.isNamed_iff hrow]

lemma findMood?_isNamed (h : rows.Sound catalogs) {row : MoodRow} :
    rows.findMood? owner (foldCase name) = some row ↔
      row ∈ rows.moods ∧ row.IsNamed owner name := by
  rw [h.findMood?_eq_some_iff]
  exact and_congr_right fun hrow => by rw [h.isNamed_iff hrow, isMood_iff]

lemma findMood?_eq_none_iff (h : rows.Sound catalogs) :
    rows.findMood? owner (foldCase name) = none ↔ ∀ row ∈ rows.moods, ¬row.IsNamed owner name := by
  rw [Option.eq_none_iff_forall_ne_some]
  exact forall_congr' fun row => by rw [ne_eq, h.findMood?_isNamed, not_and]

lemma filter_not_isMood (h : rows.Sound catalogs) {row : MoodRow} (hrow : row ∈ rows.moods)
    (hnamed : row.IsNamed owner name) :
    (rows.moods.filter fun other => !isMood owner (foldCase name) other) =
      rows.moods.erase row := by
  rw [h.moods.nodup.erase_eq_filter]
  refine List.filter_congr fun other hother => ?_
  rw [bne, Bool.not_inj_iff, Bool.eq_iff_iff, beq_iff_eq, ← h.isNamed_iff hother]
  constructor
  · intro hother'
    exact Option.some_inj.mp ((h.findMood?_isNamed.mpr ⟨hother, hother'⟩).symm.trans
      (h.findMood?_isNamed.mpr ⟨hrow, hnamed⟩))
  · rintro rfl
    exact hnamed

end Sound

/-- What deleting the owner's mood with this name answers, and which tables it leaves. Where no line
refers to the mood, its row alone is deleted; where lines do, the answer gives their number and the
name as the caller spelled it. -/
structure MoodDeletion (rows : Rows) (owner name : String) (answer : Except Error Unit)
    (rows' : Rows) : Prop where
  absent : answer = .error .notFound ↔ ∀ row ∈ rows.moods, ¬row.IsNamed owner name
  deleted : ∀ row ∈ rows.moods, row.IsNamed owner name → rows.dependents owner name = [] →
    answer = .ok () ∧ rows' = { rows with moods := rows.moods.erase row }
  blocked : ∀ row ∈ rows.moods, row.IsNamed owner name → rows.dependents owner name ≠ [] →
    answer = .error (.hasDependents name "lines" (rows.dependents owner name).length)
  refused : ∀ error, answer = .error error → rows' = rows

lemma MoodDeletion.answer_cases {answer : Except Error Unit}
    (h : rows.MoodDeletion owner name answer rows') :
    answer = .error .notFound ∨ answer = .ok () ∨
      ∃ count, answer = .error (.hasDependents name "lines" count) := by
  by_cases hnone : ∀ row ∈ rows.moods, ¬row.IsNamed owner name
  · exact .inl (h.absent.mpr hnone)
  · push Not at hnone
    obtain ⟨row, hrow, hnamed⟩ := hnone
    by_cases hnil : rows.dependents owner name = []
    · exact .inr (.inl (h.deleted row hrow hnamed hnil).1)
    · exact .inr (.inr ⟨_, h.blocked row hrow hnamed hnil⟩)

end Rows

lemma Service.deleteMood_of_rows (service : Service ρ) (owner : String) {world : World ρ}
    (hrows : world.database.rows = some rows) (hname : service.builtins.contains name = false) :
    (service.deleteMood owner name world).2.database =
        { world.database with rows := some (rows.deleteMood owner (foldCase name)).2 } ∧
      (service.deleteMood owner name world).1 =
        match (rows.deleteMood owner (foldCase name)).1 with
        | .ok 0 => .error .notFound
        | .ok (_ + 1) => .ok ()
        | .error failure =>
          if (Fault.classify failure).isForeignKey then
            .error (.hasDependents name "lines"
              ((rows.deleteMood owner (foldCase name)).2.countLinesUsing owner (foldCase name)))
          else .error (Fault.classify failure).toError := by
  constructor
  · rw [deleteMood, logged_database, Moods.delete_database, hname, if_neg Bool.false_ne_true,
      Database.write_of_rows hrows]
  · rw [deleteMood, logged_answer, Moods.delete_apply, hname, if_neg Bool.false_ne_true,
      Guard.deleteOrReport_apply]
    simp only [World.execute, Database.write_of_rows hrows, Operation.reading_apply]
    rcases rows.deleteMood owner (foldCase name) with ⟨failure | _ | count, left⟩
    · simp only
      split <;> rfl
    · rfl
    · rfl

lemma Database.Holds.deleteMood {world : World ρ} (holds : world.database.Holds catalogs rows)
    (service : Service ρ) (owner : String) (hname : service.builtins.contains name = false) :
    ∃ rows', (service.deleteMood owner name world).2.database =
        { world.database with rows := some rows' } ∧
      rows.MoodDeletion owner name (service.deleteMood owner name world).1 rows' := by
  obtain ⟨hafter, hanswer⟩ := service.deleteMood_of_rows owner holds.1 hname
  refine ⟨_, hafter, ?_⟩
  rw [hanswer]
  have hcount := holds.2.countLinesUsing_eq_length owner name
  cases hfind : rows.findMood? owner (foldCase name) with
  | none =>
    have hnone := holds.2.findMood?_eq_none_iff.mp hfind
    rw [Rows.deleteMood_of_absent hfind]
    exact ⟨iff_of_true rfl hnone, fun row hrow hrow' => absurd hrow' (hnone row hrow),
      fun row hrow hrow' => absurd hrow' (hnone row hrow), fun _ _ => rfl⟩
  | some row =>
    have hsome : ¬∀ row ∈ rows.moods, ¬row.IsNamed owner name := by
      rw [← holds.2.findMood?_eq_none_iff, hfind]
      exact nofun
    by_cases hnil : rows.dependents owner name = []
    · have hunused : (rows.moods.filter (Rows.isMood owner (foldCase name))).any rows.isMoodUsed =
          false := by
        rw [Bool.eq_false_iff, ne_eq, Rows.any_isMoodUsed_iff, hcount, hnil]
        exact not_not.mpr rfl
      rw [Rows.deleteMood_of_unused hunused, holds.2.filter_isMood, hfind]
      refine ⟨iff_of_false nofun hsome, fun other hother hother' _ => ⟨rfl, ?_⟩,
        fun _ _ _ hne => absurd hnil hne, nofun⟩
      rw [holds.2.filter_not_isMood hother hother']
    · have hused : (rows.moods.filter (Rows.isMood owner (foldCase name))).any rows.isMoodUsed =
          true := by
        rw [Rows.any_isMoodUsed_iff, hcount, ne_eq, List.length_eq_zero_iff]
        exact hnil
      rw [Rows.deleteMood_of_used hused, hcount]
      exact ⟨iff_of_false nofun hsome, fun _ _ _ h => absurd h hnil, fun _ _ _ _ => rfl,
        fun _ _ => rfl⟩

/-! ### Counting the lines that are shown -/

/-- The line is shown with an owned mood of this name. -/
def Line.hasOwned (name : String) (line : Line) : Bool :=
  line.mood.userDefined && foldCase line.mood.name == foldCase name

lemma countP_eq_of_forall₂ {α β : Type} {p : α → Bool} {q : β → Bool} {items : List α}
    {results : List β} (h : List.Forall₂ (fun item result => p item = q result) items results) :
    items.countP p = results.countP q := by
  induction h with
  | nil => rfl
  | cons hhead htail ih => rw [List.countP_cons, List.countP_cons, hhead, ih]

lemma countP_flatMap_of_forall₂ {α β γ δ : Type} {f : α → List γ} {g : β → List δ} {p : γ → Bool}
    {q : δ → Bool} {items : List α} {results : List β}
    (h : List.Forall₂ (fun item result => (f item).countP p = (g result).countP q) items results) :
    (items.flatMap f).countP p = (results.flatMap g).countP q := by
  induction h with
  | nil => rfl
  | cons hhead htail ih =>
    rw [List.flatMap_cons, List.flatMap_cons, List.countP_append, List.countP_append, hhead, ih]

namespace Rows.Sound

variable {builtins : Catalog Mood}

/-- A line is shown with an owned mood of an unreserved name just when it refers to the row. -/
lemma hasOwned_eq (h : rows.Sound {builtins}) (hname : builtins.contains name = false)
    {line : LineRow} (hline : line ∈ rows.lines) {home : ConversationRow}
    (hhome : home ∈ rows.conversations) (hid : home.id = line.conversation) {shown : Line}
    (hshown : (rows.account home.owner).Shows builtins line.toNote shown) :
    shown.hasOwned name = Account.refersTo (foldCase name) line.toNote := by
  obtain ⟨mood, hmood, rfl⟩ := hshown
  cases hplace : line.mood with
  | none =>
    -- a built-in mood has a reserved name, so not this one
    obtain ⟨catalog, rfl, hreserved⟩ := h.builtin line hline hplace
    rw [Catalog.contains_eq_isSome_get?, Option.isSome_iff_exists] at hreserved
    obtain ⟨found, hfound⟩ := hreserved
    obtain rfl : found = mood := by
      simpa [Account.getMood, Account.meaning?, LineRow.toNote, hfound] using hmood
    have hother : (foldCase found.name == foldCase name) = false := by
      rw [beq_eq_false_iff_ne]
      intro hfold
      have hcontains := Catalog.contains_of_get? hfound
      rw [Catalog.contains_congr (a := Entry.id found) hfold, hname] at hcontains
      cases hcontains
    simp [Line.hasOwned, Account.refersTo, LineRow.toNote, hplace, hother]
  | some id =>
    obtain ⟨row, hrow, rfl, hrowname, howner⟩ := h.owned line hline id hplace
    obtain ⟨catalog, rfl, hfree⟩ := h.unreserved row hrow
    rw [hrowname, Catalog.contains_eq_isSome_get?, Option.isSome_eq_false_iff,
      Option.isNone_iff_eq_none] at hfree
    have hfind : rows.findMood? home.owner (foldCase line.moodName) = some row :=
      h.findMood?_isNamed.mpr ⟨hrow, (howner home hhome hid).symm, by rw [hrowname]⟩
    obtain rfl : row.toMood = mood := by
      simpa [Account.getMood, Account.meaning?, LineRow.toNote, hfree, h.account_mood?, hfind]
        using hmood
    simp [Line.hasOwned, Account.refersTo, LineRow.toNote, hplace, Mood.userDefined,
      MoodRow.toMood, Mood.owned, hrowname]

/-- Reading all conversations of the owner shows as many lines with the mood as refer to it. -/
lemma dependents_shown (h : rows.Sound {builtins}) (hname : builtins.contains name = false)
    (owner : String) :
    ∃ conversations, (rows.conversationsOf owner).mapM (fun row =>
        (rows.account owner).getConversation builtins row.publicId) = .ok conversations ∧
      (rows.dependents owner name).length =
        (conversations.flatMap Conversation.lines).countP (Line.hasOwned name) := by
  have hread : ∀ row ∈ rows.conversationsOf owner, ∃ conversation,
      (rows.account owner).getConversation builtins row.publicId = .ok conversation ∧
        (rows.document row).notes.countP (Account.refersTo (foldCase name)) =
          conversation.lines.countP (Line.hasOwned name) := by
    intro row hrow
    obtain ⟨hmem, rfl⟩ := mem_conversationsOf.mp hrow
    obtain ⟨lines, hlines, hshown⟩ := Account.getConversation_of_mem (h.account_distinct row.owner)
      (h.account_readable row.owner) (mem_documents.mpr ⟨row, hmem, rfl, rfl⟩)
    refine ⟨_, hlines, countP_eq_of_forall₂ ?_⟩
    obtain ⟨hlength, hall⟩ := List.forall₂_iff_zip.mp hshown
    refine List.forall₂_iff_zip.mpr ⟨hlength, fun {note line} hpair => ?_⟩
    obtain ⟨stored, hstored, hhome, rfl⟩ := mem_notes.mp (List.of_mem_zip hpair).1
    exact (h.hasOwned_eq hname hstored hmem hhome.symm (hall hpair)).symm
  obtain ⟨conversations, hconversations, hcounts⟩ := exists_mapM_eq_ok hread
  refine ⟨conversations, hconversations, ?_⟩
  rw [← h.countLinesUsing_eq_length, h.countLinesUsing_eq, Account.uses, account,
    List.flatMap_map]
  exact countP_flatMap_of_forall₂ hcounts

end Rows.Sound

/-! ### Deleting the lines -/

/-- The call deletes a line, or a conversation with its lines. -/
def Call.prunes : Call → Bool
  | .deleteLine .. | .deleteConversation .. => true
  | _ => false

/-- The call deletes the line, alone or with its conversation. -/
def Call.Deletes (rows : Rows) (line : LineRow) (call : Call) : Prop :=
  ∃ home ∈ rows.conversations, home.id = line.conversation ∧
    (call = .deleteLine home.owner home.publicId line.publicId ∨
      call = .deleteConversation home.owner home.publicId)

/-- What is left of the tables when lines are deleted, or conversations with their lines. -/
structure Rows.Pruned (rows rows' : Rows) : Prop where
  moods : rows'.moods = rows.moods
  conversations : rows'.conversations ⊆ rows.conversations
  lines : rows'.lines ⊆ rows.lines

namespace Rows.Pruned

lemma refl (rows : Rows) : rows.Pruned rows :=
  ⟨rfl, List.Subset.refl _, List.Subset.refl _⟩

lemma trans (h : rows.Pruned rows') (h' : rows'.Pruned rows'') : rows.Pruned rows'' :=
  ⟨h'.moods.trans h.moods, List.Subset.trans h'.conversations h.conversations,
    List.Subset.trans h'.lines h.lines⟩

lemma deletes (h : rows.Pruned rows') (sound : rows.Sound catalogs) (sound' : rows'.Sound catalogs)
    {line : LineRow} (hline : line ∈ rows'.lines) {call : Call}
    (hdeletes : call.Deletes rows line) : call.Deletes rows' line := by
  obtain ⟨home, hhome, hid, hcall⟩ := hdeletes
  obtain ⟨home', hhome', hid'⟩ := sound'.home line hline
  obtain rfl := sound.conversations.eq_of_id hhome (h.conversations hhome') (hid.trans hid'.symm)
  exact ⟨home, hhome', hid, hcall⟩

lemma dependents_eq_nil (h : rows.Pruned rows')
    (hgone : ∀ line ∈ rows.dependents owner name, line ∉ rows'.lines) :
    rows'.dependents owner name = [] := by
  rw [List.eq_nil_iff_forall_not_mem]
  intro line hline
  obtain ⟨hline', hmood⟩ := mem_dependents.mp hline
  rw [h.moods] at hmood
  exact hgone line (mem_dependents.mpr ⟨h.lines hline', hmood⟩) hline'

end Rows.Pruned

namespace Turn

lemma pruned (turn : Turn) {db : Database} (holds : db.Holds catalogs rows)
    (hprunes : turn.call.prunes = true) :
    ∃ rows', (turn.after db).Holds catalogs rows' ∧ rows.Pruned rows' ∧
      ∀ line ∈ rows'.lines, ¬turn.call.Deletes rows line := by
  obtain ⟨builtins, call, draws⟩ := turn
  cases call with
  | deleteLine owner conversation id =>
    refine ⟨(rows.deleteLine owner conversation id).2, ⟨?_, (holds.2.deleteLine _ _ _).1⟩,
      ⟨rfl, List.Subset.refl _, List.filter_subset_self _⟩, ?_⟩
    · simp only [after, take, Service.perform, Service.deleteLine, Operation.map_apply,
        Service.logged_database, Conversations.deleteLine_apply, Operation.executing_apply,
        Database.write_of_rows holds.1]
    · rintro line hline ⟨home, hhome, hid, hcall | hcall⟩
      · cases hcall
        have hkept := (List.mem_filter.mp hline).2
        -- the line lay in the conversation named, so the statement took it
        have hof : rows.isLineOf home.owner home.publicId line = true :=
          List.any_eq_true.mpr ⟨home, hhome, by simp [hid]⟩
        simp [hof] at hkept
      · cases hcall
  | deleteConversation owner id =>
    refine ⟨(rows.deleteConversation owner id).2, ⟨?_, (holds.2.deleteConversation _ _).1⟩,
      ⟨rfl, List.filter_subset_self _, List.filter_subset_self _⟩, ?_⟩
    · simp only [after, take, Service.perform, Service.deleteConversation, Operation.map_apply,
        Service.logged_database, Conversations.delete_apply, Operation.executing_apply,
        Database.write_of_rows holds.1]
    · rintro line hline ⟨home, hhome, hid, hcall | hcall⟩
      · cases hcall
      · cases hcall
        have hkept := (List.mem_filter.mp hline).2
        rw [Bool.not_eq_true', List.any_eq_false] at hkept
        exact hkept home (List.mem_filter.mpr ⟨hhome, by simp⟩) (by simp [hid])
  | _ => cases hprunes

lemma left_pruned (turns : List Turn) {db : Database} (holds : db.Holds catalogs rows)
    (hprunes : ∀ turn ∈ turns, turn.call.prunes = true) :
    ∃ rows', (left turns db).Holds catalogs rows' ∧ rows.Pruned rows' ∧
      ∀ line ∈ rows'.lines, ∀ turn ∈ turns, ¬turn.call.Deletes rows line := by
  induction turns generalizing db rows with
  | nil => exact ⟨rows, holds, .refl rows, nofun⟩
  | cons turn turns ih =>
    obtain ⟨middle, hmiddle, hfirst, hgone⟩ := turn.pruned holds (hprunes turn List.mem_cons_self)
    obtain ⟨rows', holds', hrest, hgone'⟩ := ih hmiddle fun other hother =>
      hprunes other (List.mem_cons_of_mem _ hother)
    refine ⟨rows', holds', hfirst.trans hrest, fun line hline other hother hdeletes => ?_⟩
    have hlive := hrest.lines hline
    rcases List.mem_cons.mp hother with rfl | hother
    · exact hgone line hlive hdeletes
    · exact hgone' line hline other hother (hfirst.deletes holds.2 hmiddle.2 hlive hdeletes)

end Turn

/-- **A mood is kept just as long as lines refer to it.** Deleting a mood whose name is not reserved
answers that it does not exist, deletes exactly its row, or reports the number of the lines that
refer to it and changes nothing. With one catalog of built-in moods this is the number of lines
that reading all conversations of the owner shows with the mood; and once all these lines are
deleted, alone or with their conversations and in whatever order, the mood can be deleted. -/
theorem moods_are_kept_for_their_lines {world : World ρ}
    (reachable : Reachable catalogs world.database) (service : Service ρ) (owner : String)
    {name : String} (hname : service.builtins.contains name = false) :
    ∃ rows, world.database.rows = some rows ∧
      (∃ rows', (service.deleteMood owner name world).2.database =
          { world.database with rows := some rows' } ∧
        rows.MoodDeletion owner name (service.deleteMood owner name world).1 rows') ∧
      (catalogs ⊆ {service.builtins} → ∃ conversations,
        (rows.conversationsOf owner).mapM (fun row =>
          (service.getConversation owner row.publicId world).1) = .ok conversations ∧
        (rows.dependents owner name).length =
          (conversations.flatMap Conversation.lines).countP (Line.hasOwned name)) ∧
      ∀ row ∈ rows.moods, row.IsNamed owner name → ∀ turns : List Turn,
        (∀ turn ∈ turns, turn.call.prunes = true) →
        (∀ line ∈ rows.dependents owner name, ∃ turn ∈ turns, turn.call.Deletes rows line) →
        (service.deleteMood owner name
          { world with database := Turn.left turns world.database }).1 = .ok () := by
  obtain ⟨rows, holds⟩ := reachable.holds
  refine ⟨rows, holds.1, holds.deleteMood service owner hname, fun hshared => ?_,
    fun row hrow hnamed turns hprunes hcovered => ?_⟩
  · have hsound : rows.Sound {service.builtins} := holds.2.mono hshared
    obtain ⟨conversations, hread, hcount⟩ := hsound.dependents_shown hname owner
    refine ⟨conversations, ?_, hcount⟩
    simp only [Service.getConversation, Service.logged_answer, Operation.reading_apply,
      holds.getConversation_eq]
    exact hread
  · -- pruning leaves the mood, and none of the lines that refer to it
    obtain ⟨rows', holds', hpruned, hgone⟩ := Turn.left_pruned turns holds hprunes
    have hnil : rows'.dependents owner name = [] := by
      refine hpruned.dependents_eq_nil fun line hline hline' => ?_
      obtain ⟨turn, hturn, hdeletes⟩ := hcovered line hline
      exact hgone line hline' turn hturn hdeletes
    rw [← hpruned.moods] at hrow
    let left : World ρ := { world with database := Turn.left turns world.database }
    have hleft : left.database.Holds catalogs rows' := holds'
    obtain ⟨_, -, hdeletion⟩ := hleft.deleteMood service owner hname
    exact (hdeletion.deleted row hrow hnamed hnil).1

/-- Ann cannot delete a mood that two of her lines have, until one of them is deleted and the
conversation of the other. -/
theorem mood_is_kept_for_two_lines :
    let turn (call : Call) (draw : UInt64) : Turn := ⟨builtinMoods, call, fun _ => draw⟩
    let line (mood : String) : NewLine := ⟨"cow", false, mood, "moo"⟩
    let world : World ℕ := ⟨Turn.left [turn (.setMood "ann" "Calm" "oo" "  ") 0,
      turn (.setMood "bob" "calm" "uu" "  ") 0, turn (.createConversation "ann" "notes") 1,
      turn (.createConversation "ann" "plans") 2, turn (.createLine "ann" "cv_1" (line "calm")) 3,
      turn (.createLine "ann" "cv_2" (line "CALM")) 4,
      turn (.createLine "ann" "cv_1" (line "borg")) 5] .fresh, [], 0⟩
    let service : Service ℕ := ⟨builtinMoods, pure 0⟩
    let turns : List Turn :=
      [turn (.deleteConversation "ann" "cv_2") 0, turn (.deleteLine "ann" "cv_1" "ln_3") 0]
    Reachable {builtinMoods} world.database ∧ service.builtins.contains "calM" = false ∧
      (service.deleteMood "ann" "calM" world).1 = .error (.hasDependents "calM" "lines" 2) ∧
      (service.deleteMood "ann" "calM"
        { world with database := Turn.left turns world.database }).1 = .ok () := by
  intro turn line world service turns
  have reachable : Reachable {builtinMoods} world.database :=
    Turn.left_reaches _ (by simp [turn]) .fresh
  have hname : service.builtins.contains "calM" = false := by decide +kernel
  let mood : MoodRow := ⟨1, "ann", "Calm", "calm", "oo", "  "⟩
  let notes : ConversationRow := ⟨1, "cv_1", "ann", "notes"⟩
  let plans : ConversationRow := ⟨2, "cv_2", "ann", "plans"⟩
  let first : LineRow := ⟨1, "ln_3", 1, some 1, "Calm", "cow", false, "moo"⟩
  let second : LineRow := ⟨2, "ln_4", 2, some 1, "Calm", "cow", false, "moo"⟩
  let third : LineRow := ⟨3, "ln_5", 1, none, "borg", "cow", false, "moo"⟩
  let rows : Rows := ⟨[mood, ⟨2, "bob", "calm", "calm", "uu", "  "⟩], [notes, plans],
    [first, second, third], 2, 2, 3⟩
  have hrows : world.database.rows = some rows := by decide +kernel
  have hnamed : mood.IsNamed "ann" "calM" := by decide +kernel
  have hlines : rows.dependents "ann" "calM" = [first, second] := by decide +kernel
  have hmood : mood ∈ rows.moods := List.mem_cons_self
  obtain ⟨_, hsame, ⟨_, -, hdeletion⟩, -, hkept⟩ :=
    moods_are_kept_for_their_lines reachable service "ann" hname
  obtain rfl := Option.some_inj.mp (hrows.symm.trans hsame)
  refine ⟨reachable, hname, ?_, hkept mood hmood hnamed turns (by simp [turns, turn, Call.prunes])
    fun stored hstored => ?_⟩
  · have hblocked := hdeletion.blocked mood hmood hnamed (by simp [hlines])
    rwa [hlines] at hblocked
  · rw [hlines, List.mem_pair] at hstored
    rcases hstored with rfl | rfl
    · exact ⟨turns[1], List.mem_of_getElem rfl, notes, by simp [rows], rfl, .inl rfl⟩
    · exact ⟨turns[0], List.mem_of_getElem rfl, plans, by simp [rows], rfl, .inr rfl⟩

end MoodStore
