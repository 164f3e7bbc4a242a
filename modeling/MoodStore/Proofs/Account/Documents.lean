import MoodStore.Proofs.Account.Tables

/-!
The conversations of accounts.

A line is found through the conversation that it lies in, and a conversation through its owner, so
neither the lines of other conversations nor the conversations of others are seen or changed.
-/

namespace MoodStore.Rows

variable {catalogs : Set (Catalog Mood)} {rows rows' : Rows}

/-! ### Finding conversations and lines -/

lemma account_document? (rows : Rows) (owner id : String) :
    (rows.account owner).document? id = (rows.findConversation? owner id).map rows.document := by
  rw [findConversation?_eq_find?, Account.document?, account, List.find?_map]
  rfl

lemma isLineOf_of_absent {owner conversation : String}
    (habsent : rows.findConversation? owner conversation = none) (line : LineRow) :
    rows.isLineOf owner conversation line = false := by
  rw [isLineOf, List.any_eq_false]
  intro row hrow
  rw [Bool.and_eq_true, not_and]
  intro hconversation
  exact absurd hconversation (List.find?_eq_none.mp habsent row hrow)

namespace Sound

lemma isLineOf_eq (h : rows.Sound catalogs) {owner conversation : String} {row : ConversationRow}
    (hfind : rows.findConversation? owner conversation = some row) (line : LineRow) :
    rows.isLineOf owner conversation line = (line.conversation == row.id) := by
  rw [Bool.eq_iff_iff]
  simp only [isLineOf, List.any_eq_true, Bool.and_eq_true, isConversation_iff, beq_iff_eq]
  constructor
  · rintro ⟨other, hother, hconversation, hid⟩
    have hfind' := h.findConversation?_eq_some_iff.mpr ⟨hother, hconversation⟩
    obtain rfl := Option.some_inj.mp (hfind.symm.trans hfind')
    exact hid.symm
  · intro hid
    obtain ⟨hrow, hconversation⟩ := h.findConversation?_eq_some_iff.mp hfind
    exact ⟨row, hrow, hconversation, hid.symm⟩

lemma account_note? (h : rows.Sound catalogs) (owner conversation id : String) :
    (rows.account owner).note? conversation id =
      (rows.findLine? owner conversation id).map LineRow.toNote := by
  rw [Account.note?, account_document?, findLine?]
  cases hfind : rows.findConversation? owner conversation with
  | none =>
    have hnone : rows.lines.find? (fun line =>
        line.publicId == id && rows.isLineOf owner conversation line) = none := by
      rw [List.find?_eq_none]
      intro line _
      rw [isLineOf_of_absent hfind, Bool.and_false]
      exact Bool.false_ne_true
    rw [hnone]
    rfl
  | some row =>
    rw [Option.map_some, Option.bind_some, document, List.find?_map, linesOf, List.find?_filter]
    refine congrArg _ (find?_congr_of_mem fun line _ => ?_)
    rw [h.isLineOf_eq hfind, Bool.and_comm, Bool.decide_and, Bool.decide_eq_true,
      Bool.decide_eq_true]
    rfl

end Sound

/-! ### Showing lines -/

lemma mapM_congr_of_mem {α β γ : Type} {f : α → Except Error γ} {g : β → Except Error γ}
    {view : α → β} {table : List α} (h : ∀ row ∈ table, f row = g (view row)) :
    table.mapM f = (table.map view).mapM g := by
  induction table with
  | nil => rfl
  | cons row table ih =>
    rw [List.map_cons, List.mapM_cons, List.mapM_cons, h row List.mem_cons_self,
      ih fun other hother => h other (List.mem_cons_of_mem _ hother)]

namespace Sound

lemma showLine_eq (h : rows.Sound catalogs) (builtins : Catalog Mood) {line : LineRow}
    (hline : line ∈ rows.lines) {home : ConversationRow} (hhome : home ∈ rows.conversations)
    (hid : home.id = line.conversation) :
    Conversations.showLine builtins rows line =
      (rows.account home.owner).showNote builtins line.toNote := by
  have hmood : (if line.toNote.owned then
      (rows.account home.owner).mood? (foldCase line.toNote.moodName) else none) =
        (rows.moodOf? line).map MoodRow.toMood := by
    cases hmood : line.mood with
    | none => simp [LineRow.toNote, moodOf?, hmood]
    | some id =>
      obtain ⟨row, hrow, rfl, hname, howner⟩ := h.owned line hline id hmood
      have hfind : rows.findMood? home.owner (foldCase line.moodName) = some row :=
        h.findMood?_eq_some_iff.mpr
          ⟨hrow, (howner home hhome hid).symm, by rw [h.key row hrow, hname]⟩
      have hlive : rows.moods.find? (fun other => other.id == row.id) = some row :=
        (find?_eq_some_iff_of_unique fun a ha b hb hpa hpb => h.moods.eq_of_id ha hb
          ((beq_iff_eq.mp hpa).trans (beq_iff_eq.mp hpb).symm)).mpr ⟨hrow, beq_self_eq_true _⟩
      simp [LineRow.toNote, moodOf?, hmood, h.account_mood?, hfind, hlive]
  have hshown : Conversations.lineMood builtins rows line =
      (rows.account home.owner).noteMood builtins line.toNote := by
    rw [Conversations.lineMood, Account.noteMood, hmood]
    cases rows.moodOf? line <;> rfl
  rw [Conversations.showLine, Account.showNote, hshown]
  rfl

lemma mapM_showLine_eq (h : rows.Sound catalogs) (builtins : Catalog Mood) {row : ConversationRow}
    (hrow : row ∈ rows.conversations) :
    (rows.linesOf row.id).mapM (Conversations.showLine builtins rows) =
      (rows.document row).notes.mapM ((rows.account row.owner).showNote builtins) := by
  refine mapM_congr_of_mem fun line hline => ?_
  obtain ⟨hline, hid⟩ := List.mem_filter.mp hline
  exact h.showLine_eq builtins hline hrow (beq_iff_eq.mp hid).symm

end Sound

/-! ### Creating and deleting conversations -/

lemma Sound.linesOf_new (h : rows.Sound catalogs) :
    rows.linesOf (rows.lastConversation + 1) = [] := by
  refine List.filter_eq_nil_iff.mpr fun line hline => ?_
  have hle := h.conversation_le hline
  rw [beq_iff_eq]
  omega

lemma Sound.insertConversation_leaves (h : rows.Sound catalogs) {publicId : String}
    (hfree : rows.conversations.any (fun row => row.publicId == publicId) = false)
    (owner heading : String) :
    rows.Leaves owner { rows.account owner with
      documents := (rows.account owner).documents ++ [⟨publicId, heading, []⟩] }
      (rows.insertConversation publicId owner heading).2 := by
  rw [insertConversation_of_free owner heading hfree]
  refine ⟨?_, fun other hother => ?_⟩
  · simp only [account, conversationsOf, List.filter_append, List.map_append]
    congr 1
    have hdocument : rows.document ⟨rows.lastConversation + 1, publicId, owner, heading⟩ =
        ⟨publicId, heading, []⟩ := by
      simp only [document, h.linesOf_new, List.map_nil]
    rw [← hdocument, List.filter_singleton, beq_self_eq_true]
    rfl
  · simp only [account, conversationsOf, List.filter_append, List.map_append]
    congr 1
    rw [List.filter_singleton, beq_eq_false_iff_ne.mpr hother.symm]
    exact List.append_nil _

lemma deleteConversation_of_absent {owner publicId : String}
    (habsent : rows.findConversation? owner publicId = none) :
    rows.deleteConversation owner publicId = (0, rows) := by
  obtain ⟨hdoomed, hkept⟩ := filter_of_find?_eq_none habsent
  simp only [deleteConversation, hdoomed, hkept, List.any_nil, Bool.not_false, List.filter_true]
  rfl

lemma Sound.filter_isConversation (h : rows.Sound catalogs) (owner publicId : String) :
    rows.conversations.filter (isConversation owner publicId) =
      (rows.findConversation? owner publicId).toList := by
  refine filter_eq_toList_find? h.conversations.nodup fun a ha b hb hpa hpb => ?_
  rw [isConversation_iff] at hpa hpb
  exact h.conversation_unique ha hb (hpa.2.trans hpb.2.symm)

lemma Sound.deleteConversation_of_some (h : rows.Sound catalogs) {owner publicId : String}
    {row : ConversationRow} (hfind : rows.findConversation? owner publicId = some row) :
    rows.deleteConversation owner publicId = (1, { rows with
      conversations := rows.conversations.filter fun other =>
        !isConversation owner publicId other
      lines := rows.lines.filter fun line => !(row.id == line.conversation) }) := by
  simp only [Rows.deleteConversation, h.filter_isConversation, hfind, Option.toList_some,
    List.any_cons, List.any_nil, Bool.or_false]
  rfl

lemma Sound.deleteConversation_leaves (h : rows.Sound catalogs) {owner publicId : String}
    {row : ConversationRow} (hfind : rows.findConversation? owner publicId = some row) :
    rows.Leaves owner { rows.account owner with
      documents := (rows.account owner).documents.filter fun document =>
        !(document.id == publicId) }
      (rows.deleteConversation owner publicId).2 := by
  obtain ⟨hrow, howner, hid⟩ := h.findConversation?_eq_some_iff.mp hfind
  rw [h.deleteConversation_of_some hfind]
  set rows' : Rows := { rows with
    conversations := rows.conversations.filter fun other => !isConversation owner publicId other
    lines := rows.lines.filter fun line => !(row.id == line.conversation) } with hrows'
  -- row ids are unique, so no document that stays loses a line
  have hdocument : ∀ other ∈ rows'.conversations, rows'.document other = rows.document other := by
    intro other hother
    obtain ⟨hother, hstays⟩ := List.mem_filter.mp hother
    have hne : row.id ≠ other.id := by
      intro heq
      obtain rfl := h.conversations.eq_of_id hrow hother heq
      rw [isConversation_iff.mpr ⟨howner, hid⟩] at hstays
      exact Bool.noConfusion hstays
    simp only [document, hrows', linesOf, List.filter_filter]
    congr 2
    refine List.filter_congr fun line _ => ?_
    by_cases hline : line.conversation = other.id
    · simp [hline, hne]
    · simp [hline]
  refine ⟨?_, fun other hother => ?_⟩
  · have hkept : rows'.conversationsOf owner =
        (rows.conversationsOf owner).filter fun other => !(other.publicId == publicId) := by
      simp only [conversationsOf, hrows', List.filter_filter]
      refine List.filter_congr fun other _ => ?_
      cases hown : other.owner == owner <;> simp [isConversation, hown]
    simp only [account, List.filter_map]
    congr 1
    rw [List.map_congr_left fun other hother => hdocument other (mem_conversationsOf.mp hother).1,
      hkept]
    rfl
  · have hkept : rows'.conversationsOf other = rows.conversationsOf other := by
      simp only [conversationsOf, hrows', List.filter_filter]
      refine List.filter_congr fun found _ => ?_
      by_cases hown : found.owner = other
      · simp [isConversation, hown, hother]
      · simp [hown]
    simp only [account]
    congr 1
    rw [List.map_congr_left fun other hother => hdocument other (mem_conversationsOf.mp hother).1,
      hkept]

/-! ### Creating and deleting lines -/

/-- Where only the lines of one conversation change, only its document does. -/
lemma leaves_editNotes {owner conversation : String} {edit : List Note → List Note}
    (hmoods : rows'.moods = rows.moods) (hconversations : rows'.conversations = rows.conversations)
    (hlines : ∀ row ∈ rows.conversations, (rows'.linesOf row.id).map LineRow.toNote =
      if isConversation owner conversation row then edit ((rows.linesOf row.id).map LineRow.toNote)
      else (rows.linesOf row.id).map LineRow.toNote) :
    rows.Leaves owner ((rows.account owner).editNotes conversation edit) rows' := by
  refine ⟨?_, fun other hother => ?_⟩
  · simp only [account, Account.editNotes, moodsOf, conversationsOf, hmoods, hconversations,
      List.map_map]
    congr 1
    refine List.map_congr_left fun row hrow => ?_
    obtain ⟨hmem, rfl⟩ := mem_conversationsOf.mp hrow
    simp only [document, hlines row hmem, isConversation, beq_self_eq_true, Bool.true_and,
      Function.comp_apply]
    by_cases hid : row.publicId = conversation
    · simp only [hid, beq_self_eq_true, if_true]
    · simp only [beq_eq_false_iff_ne.mpr hid, Bool.false_eq_true, if_false]
  · simp only [account, moodsOf, conversationsOf, hmoods, hconversations]
    congr 1
    refine List.map_congr_left fun row hrow => ?_
    obtain ⟨hmem, rfl⟩ := mem_conversationsOf.mp hrow
    have hforeign : isConversation owner conversation row = false := by
      simp [isConversation, hother]
    simp only [document, hlines row hmem, hforeign, Bool.false_eq_true, if_false]

lemma Sound.insertLine_leaves (h : rows.Sound catalogs) {owner conversation : String}
    {row : ConversationRow} (hfind : rows.findConversation? owner conversation = some row)
    {line : LineRow} (hhome : line.conversation = row.id)
    (hfree : rows.lines.any (fun other => other.publicId == line.publicId) = false)
    (hlive : rows.refersToLive line = true) :
    rows.Leaves owner ((rows.account owner).editNotes conversation fun notes =>
      notes ++ [line.toNote]) (rows.insertLine line).2 := by
  obtain ⟨hrow, hconversation⟩ := h.findConversation?_eq_some_iff.mp hfind
  rw [insertLine_of_live hfree hlive]
  refine leaves_editNotes rfl rfl fun other hother => ?_
  simp only [linesOf, List.filter_append, List.map_append, List.filter_singleton, hhome]
  by_cases hsame : row.id = other.id
  · obtain rfl := h.conversations.eq_of_id hrow hother hsame
    rw [isConversation_iff.mpr hconversation, beq_self_eq_true]
    rfl
  · have hother' : isConversation owner conversation other = false := by
      rw [Bool.eq_false_iff]
      intro hfound
      have hfind' := h.findConversation?_eq_some_iff.mpr ⟨hother, isConversation_iff.mp hfound⟩
      exact hsame (congrArg ConversationRow.id (Option.some_inj.mp (hfind.symm.trans hfind')))
    rw [hother', beq_eq_false_iff_ne.mpr hsame]
    exact List.append_nil _

lemma deleteLine_of_absent {owner conversation publicId : String}
    (habsent : rows.findLine? owner conversation publicId = none) :
    rows.deleteLine owner conversation publicId = (0, rows) := by
  obtain ⟨hdoomed, hkept⟩ := filter_of_find?_eq_none habsent
  simp only [deleteLine, hdoomed, hkept]
  rfl

lemma Sound.filter_isLineOf (h : rows.Sound catalogs) (owner conversation publicId : String) :
    rows.lines.filter (fun line =>
      line.publicId == publicId && rows.isLineOf owner conversation line) =
      (rows.findLine? owner conversation publicId).toList := by
  refine filter_eq_toList_find? h.lines.nodup fun a ha b hb hpa hpb => ?_
  rw [Bool.and_eq_true, beq_iff_eq] at hpa hpb
  exact h.line_unique ha hb (hpa.1.trans hpb.1.symm)

lemma Sound.deleteLine_leaves (h : rows.Sound catalogs) {owner conversation publicId : String}
    {line : LineRow} (hfind : rows.findLine? owner conversation publicId = some line) :
    (rows.deleteLine owner conversation publicId).1 = 1 ∧
      rows.Leaves owner ((rows.account owner).editNotes conversation fun notes =>
        notes.filter fun note => !(note.id == publicId))
        (rows.deleteLine owner conversation publicId).2 := by
  refine ⟨?_, leaves_editNotes rfl rfl fun row hrow => ?_⟩
  · simp only [Rows.deleteLine, h.filter_isLineOf, hfind]
    rfl
  · simp only [Rows.deleteLine, linesOf, List.filter_filter]
    by_cases hconversation : isConversation owner conversation row = true
    · have hfind' : rows.findConversation? owner conversation = some row :=
        h.findConversation?_eq_some_iff.mpr ⟨hrow, isConversation_iff.mp hconversation⟩
      rw [if_pos hconversation, List.filter_map, List.filter_filter]
      refine congrArg _ (List.filter_congr fun other _ => ?_)
      rw [h.isLineOf_eq hfind']
      cases other.conversation == row.id <;> simp [LineRow.toNote]
    · rw [if_neg hconversation]
      refine congrArg _ (List.filter_congr fun other _ => ?_)
      by_cases hline : other.conversation = row.id
      · -- the line lies in this conversation, and that is not the one named
        have hforeign : rows.isLineOf owner conversation other = false := by
          rw [isLineOf, List.any_eq_false]
          intro found hfound
          rw [Bool.and_eq_true, not_and, beq_iff_eq]
          intro hisconversation hid
          obtain rfl := h.conversations.eq_of_id hfound hrow (hid.trans hline)
          exact hconversation hisconversation
        simp [hline, hforeign]
      · simp [hline]

end MoodStore.Rows
