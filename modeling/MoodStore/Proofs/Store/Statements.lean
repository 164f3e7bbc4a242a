import MoodStore.Proofs.Store.Sound

/-!
The statements that write keep what holds of the tables.

Each leaves sound tables sound and only moves on in time: a mood that is written again stays the row
that it was, a mood in use is not deleted, a conversation goes together with its lines, and a line
goes only where its references are alive.
-/

namespace MoodStore.Rows

variable {catalogs : Set (Catalog Mood)} {rows seen : Rows}

/-! ### Looking rows up -/

@[simp] lemma isMood_iff {owner key : String} {row : MoodRow} :
    isMood owner key row = true ↔ row.owner = owner ∧ row.key = key := by
  simp [isMood]

@[simp] lemma isConversation_iff {owner publicId : String} {row : ConversationRow} :
    isConversation owner publicId row = true ↔ row.owner = owner ∧ row.publicId = publicId := by
  simp [isConversation]

lemma find?_eq_some_iff_of_unique {α : Type} {p : α → Bool} {table : List α} {row : α}
    (hp : ∀ a ∈ table, ∀ b ∈ table, p a = true → p b = true → a = b) :
    table.find? p = some row ↔ row ∈ table ∧ p row = true := by
  constructor
  · intro hfind
    exact ⟨List.mem_of_find?_eq_some hfind, List.find?_some hfind⟩
  · rintro ⟨hrow, hprow⟩
    cases hfind : table.find? p with
    | none => exact absurd hprow (List.find?_eq_none.mp hfind row hrow)
    | some other =>
      rw [hp other (List.mem_of_find?_eq_some hfind) row hrow (List.find?_some hfind) hprow]

namespace Sound

lemma mood_unique (h : Sound catalogs rows) {a b : MoodRow} (ha : a ∈ rows.moods)
    (hb : b ∈ rows.moods) (howner : a.owner = b.owner) (hkey : a.key = b.key) : a = b :=
  List.inj_on_of_nodup_map h.mood_distinct ha hb (by rw [howner, hkey])

lemma conversation_unique (h : Sound catalogs rows) {a b : ConversationRow}
    (ha : a ∈ rows.conversations) (hb : b ∈ rows.conversations)
    (hid : a.publicId = b.publicId) : a = b :=
  List.inj_on_of_nodup_map h.conversation_distinct ha hb hid

lemma line_unique (h : Sound catalogs rows) {a b : LineRow} (ha : a ∈ rows.lines)
    (hb : b ∈ rows.lines) (hid : a.publicId = b.publicId) : a = b :=
  List.inj_on_of_nodup_map h.line_distinct ha hb hid

lemma findMood?_eq_some_iff (h : Sound catalogs rows) {owner key : String} {row : MoodRow} :
    rows.findMood? owner key = some row ↔
      row ∈ rows.moods ∧ row.owner = owner ∧ row.key = key := by
  rw [← isMood_iff]
  refine find?_eq_some_iff_of_unique fun a ha b hb hpa hpb => ?_
  rw [isMood_iff] at hpa hpb
  exact h.mood_unique ha hb (hpa.1.trans hpb.1.symm) (hpa.2.trans hpb.2.symm)

lemma findConversation?_eq_some_iff (h : Sound catalogs rows) {owner publicId : String}
    {row : ConversationRow} :
    rows.findConversation? owner publicId = some row ↔
      row ∈ rows.conversations ∧ row.owner = owner ∧ row.publicId = publicId := by
  rw [← isConversation_iff]
  refine find?_eq_some_iff_of_unique fun a ha b hb hpa hpb => ?_
  rw [isConversation_iff] at hpa hpb
  exact h.conversation_unique ha hb (hpa.2.trans hpb.2.symm)

end Sound

/-! ### Writing a mood -/

/-- The row with other eyes and another tongue, if it is the owner's mood with this key. -/
def repaint (owner key eyes tongue : String) (row : MoodRow) : MoodRow :=
  if isMood owner key row then { row with eyes, tongue } else row

section Repaint

variable (owner key eyes tongue : String) (row : MoodRow)

@[simp] lemma repaint_id : (repaint owner key eyes tongue row).id = row.id := by
  unfold repaint; split <;> rfl

@[simp] lemma repaint_owner : (repaint owner key eyes tongue row).owner = row.owner := by
  unfold repaint; split <;> rfl

@[simp] lemma repaint_name : (repaint owner key eyes tongue row).name = row.name := by
  unfold repaint; split <;> rfl

@[simp] lemma repaint_key : (repaint owner key eyes tongue row).key = row.key := by
  unfold repaint; split <;> rfl

@[simp] lemma repaint_fixed : (repaint owner key eyes tongue row).fixed = row.fixed := by
  simp [MoodRow.fixed]

end Repaint

lemma Sound.writeMood_of_some (h : Sound catalogs rows) {owner name eyes tongue : String}
    {row : MoodRow} (hfind : rows.findMood? owner (foldCase name) = some row) :
    rows.writeMood owner name eyes tongue =
      (⟨.owned row.name eyes tongue, outcomeOn row eyes tongue⟩,
        { rows with moods := rows.moods.map (repaint owner (foldCase name) eyes tongue) }) := by
  simp only [writeMood, hfind, MoodRow.toMood, Prod.mk.injEq, true_and]
  congr 1
  refine List.map_congr_left fun r hr => ?_
  unfold repaint
  split
  case isTrue hmood =>
    have hfind' := h.findMood?_eq_some_iff.mpr ⟨hr, isMood_iff.mp hmood⟩
    rw [hfind, Option.some_inj] at hfind'
    rw [hfind']
  case isFalse => rfl

lemma writeMood_of_none {owner name : String} (eyes tongue : String)
    (hfind : rows.findMood? owner (foldCase name) = none) :
    rows.writeMood owner name eyes tongue =
      (⟨.owned name eyes tongue, .created⟩,
        { rows with
          moods := rows.moods ++ [⟨rows.lastMood + 1, owner, name, foldCase name, eyes, tongue⟩]
          lastMood := rows.lastMood + 1 }) := by
  simp only [writeMood, hfind, MoodRow.toMood]

lemma Sound.writeMood (h : Sound catalogs rows) {catalog : Catalog Mood} (hc : catalog ∈ catalogs)
    {name : String} (hname : catalog.contains name = false) (owner eyes tongue : String) :
    Sound catalogs (rows.writeMood owner name eyes tongue).2 ∧
      Later rows (rows.writeMood owner name eyes tongue).2 := by
  cases hfind : rows.findMood? owner (foldCase name) with
  | some row =>
    rw [h.writeMood_of_some hfind]
    refine ⟨{ h with
      moods := h.moods.map fun r _ => by simp
      key := ?_
      unreserved := ?_
      mood_distinct := ?_
      owned := ?_ }, ⟨.map (fun r _ => by simp) (fun r _ => by simp), .refl, .refl⟩⟩
    · intro r hr
      obtain ⟨old, hold, rfl⟩ := List.mem_map.mp hr
      simpa using h.key old hold
    · intro r hr
      obtain ⟨old, hold, rfl⟩ := List.mem_map.mp hr
      simpa using h.unreserved old hold
    · -- painting changes neither owners nor keys
      have hsame : (rows.moods.map (repaint owner (foldCase name) eyes tongue)).map
          (fun r => (r.owner, r.key)) = rows.moods.map fun r => (r.owner, r.key) := by
        simp [Function.comp_def]
      rw [hsame]
      exact h.mood_distinct
    · intro line hline id hid
      obtain ⟨r, hr, hrid, hrname, hrowner⟩ := h.owned line hline id hid
      exact ⟨_, List.mem_map_of_mem hr, by simpa using hrid, by simpa using hrname,
        by simpa using hrowner⟩
  | none =>
    rw [writeMood_of_none eyes tongue hfind]
    refine ⟨{ h with
      moods := h.moods.append rfl
      key := ?_
      unreserved := ?_
      mood_distinct := ?_
      owned := ?_ }, ⟨.append rfl, .refl, .refl⟩⟩
    · intro r hr
      rcases List.mem_append.mp hr with hr | hr
      · exact h.key r hr
      · obtain rfl := List.mem_singleton.mp hr
        rfl
    · intro r hr
      rcases List.mem_append.mp hr with hr | hr
      · exact h.unreserved r hr
      · obtain rfl := List.mem_singleton.mp hr
        exact ⟨catalog, hc, hname⟩
    · rw [List.map_append, List.nodup_append]
      refine ⟨h.mood_distinct, by simp, ?_⟩
      intro a ha b hb
      obtain ⟨r, hr, rfl⟩ := List.mem_map.mp ha
      simp only [List.map_cons, List.map_nil, List.mem_singleton] at hb
      subst hb
      intro heq
      -- no row of the owner has the key, or it would have been painted
      have hnone := List.find?_eq_none.mp hfind r hr
      exact hnone (isMood_iff.mpr (Prod.mk.inj heq))
    · intro line hline id hid
      obtain ⟨r, hr, hrest⟩ := h.owned line hline id hid
      exact ⟨r, List.mem_append_left _ hr, hrest⟩

/-! ### Deleting a mood -/

lemma deleteMood_of_used {owner key : String}
    (hused : (rows.moods.filter (isMood owner key)).any rows.isMoodUsed = true) :
    rows.deleteMood owner key = (.error danglingReference, rows) := by
  simp only [deleteMood, hused, if_true]

lemma deleteMood_of_unused {owner key : String}
    (hused : (rows.moods.filter (isMood owner key)).any rows.isMoodUsed = false) :
    rows.deleteMood owner key = (.ok (rows.moods.filter (isMood owner key)).length,
      { rows with moods := rows.moods.filter fun row => !isMood owner key row }) := by
  simp only [deleteMood, hused, Bool.false_eq_true, if_false]

lemma Sound.deleteMood (h : Sound catalogs rows) (owner key : String) :
    Sound catalogs (rows.deleteMood owner key).2 ∧ Later rows (rows.deleteMood owner key).2 := by
  cases hused : (rows.moods.filter (isMood owner key)).any rows.isMoodUsed with
  | true =>
    rw [deleteMood_of_used hused]
    exact ⟨h, .refl rows⟩
  | false =>
    rw [deleteMood_of_unused hused]
    refine ⟨{ h with
      moods := h.moods.filter _
      key := fun r hr => h.key r (List.mem_of_mem_filter hr)
      unreserved := fun r hr => h.unreserved r (List.mem_of_mem_filter hr)
      mood_distinct := h.mood_distinct.sublist (List.filter_sublist.map _)
      owned := ?_ }, ⟨.filter _, .refl, .refl⟩⟩
    intro line hline id hid
    obtain ⟨r, hr, hrid, hrest⟩ := h.owned line hline id hid
    refine ⟨r, List.mem_filter.mpr ⟨hr, ?_⟩, hrid, hrest⟩
    -- a row that a line refers to is in use, and no row in use goes
    rw [Bool.not_eq_true', Bool.eq_false_iff]
    intro hmood
    have hkept := List.any_eq_false.mp hused r (List.mem_filter.mpr ⟨hr, hmood⟩)
    exact hkept (List.any_eq_true.mpr ⟨line, hline, by simp [hid, hrid]⟩)

/-! ### Conversations -/

lemma insertConversation_of_taken {publicId : String} (owner heading : String)
    (htaken : rows.conversations.any (fun row => row.publicId == publicId) = true) :
    rows.insertConversation publicId owner heading =
      (.error (takenId "conversations"), rows) := by
  simp only [insertConversation, htaken, if_true]

lemma insertConversation_of_free {publicId : String} (owner heading : String)
    (hfree : rows.conversations.any (fun row => row.publicId == publicId) = false) :
    rows.insertConversation publicId owner heading =
      (.ok ⟨rows.lastConversation + 1, publicId, owner, heading⟩,
        { rows with
          conversations := rows.conversations ++
            [⟨rows.lastConversation + 1, publicId, owner, heading⟩]
          lastConversation := rows.lastConversation + 1 }) := by
  simp only [insertConversation, hfree, Bool.false_eq_true, if_false]

lemma nodup_append_of_free {α : Type} {publicId : α → String} {table : List α} {row : α}
    (h : (table.map publicId).Nodup)
    (hfree : table.any (fun other => publicId other == publicId row) = false) :
    ((table ++ [row]).map publicId).Nodup := by
  rw [List.map_append, List.nodup_append]
  refine ⟨h, by simp, ?_⟩
  intro a ha b hb
  obtain ⟨other, hother, rfl⟩ := List.mem_map.mp ha
  simp only [List.map_cons, List.map_nil, List.mem_singleton] at hb
  subst hb
  intro heq
  exact List.any_eq_false.mp hfree other hother (by simp [heq])

lemma Sound.conversation_le (h : Sound catalogs rows) {line : LineRow} (hline : line ∈ rows.lines) :
    line.conversation ≤ rows.lastConversation := by
  obtain ⟨row, hrow, hid⟩ := h.home line hline
  rw [← hid]
  exact h.conversations.bounded row hrow

lemma Sound.insertConversation (h : Sound catalogs rows) (publicId owner heading : String) :
    Sound catalogs (rows.insertConversation publicId owner heading).2 ∧
      Later rows (rows.insertConversation publicId owner heading).2 := by
  cases hfree : rows.conversations.any fun row => row.publicId == publicId with
  | true =>
    rw [insertConversation_of_taken owner heading hfree]
    exact ⟨h, .refl rows⟩
  | false =>
    rw [insertConversation_of_free owner heading hfree]
    refine ⟨{ h with
      conversations := h.conversations.append rfl
      conversation_distinct := nodup_append_of_free h.conversation_distinct hfree
      home := ?_
      owned := ?_ }, ⟨.refl, .append rfl, .refl⟩⟩
    · intro line hline
      obtain ⟨row, hrow, hid⟩ := h.home line hline
      exact ⟨row, List.mem_append_left _ hrow, hid⟩
    · intro line hline id hid
      obtain ⟨r, hr, hrid, hrname, hrowner⟩ := h.owned line hline id hid
      refine ⟨r, hr, hrid, hrname, fun row hrow hhome => ?_⟩
      rcases List.mem_append.mp hrow with hrow | hrow
      · exact hrowner row hrow hhome
      · have hle := h.conversation_le hline
        rw [List.mem_singleton] at hrow
        subst hrow
        simp only at hhome
        omega

lemma Sound.filterLines (h : Sound catalogs rows) (p : LineRow → Bool) :
    Sound catalogs { rows with lines := rows.lines.filter p } :=
  { h with
    lines := h.lines.filter p
    line_distinct := h.line_distinct.sublist (List.filter_sublist.map _)
    home := fun line hline => h.home line (List.mem_of_mem_filter hline)
    owned := fun line hline => h.owned line (List.mem_of_mem_filter hline)
    builtin := fun line hline => h.builtin line (List.mem_of_mem_filter hline) }

lemma Sound.deleteConversation (h : Sound catalogs rows) (owner publicId : String) :
    Sound catalogs (rows.deleteConversation owner publicId).2 ∧
      Later rows (rows.deleteConversation owner publicId).2 := by
  refine ⟨{ h.filterLines _ with
    conversations := h.conversations.filter _
    conversation_distinct := h.conversation_distinct.sublist (List.filter_sublist.map _)
    home := ?_
    owned := ?_ }, ⟨.refl, .filter _, .filter _⟩⟩
  · intro line hline
    obtain ⟨hline, hkept⟩ := List.mem_filter.mp hline
    obtain ⟨row, hrow, hid⟩ := h.home line hline
    refine ⟨row, List.mem_filter.mpr ⟨hrow, ?_⟩, hid⟩
    -- the lines of a conversation that goes are not kept
    rw [Bool.not_eq_true', Bool.eq_false_iff]
    intro hdoomed
    rw [Bool.not_eq_true', List.any_eq_false] at hkept
    exact hkept row (List.mem_filter.mpr ⟨hrow, hdoomed⟩) (by simp [hid])
  · intro line hline id hid
    obtain ⟨r, hr, hrid, hrname, hrowner⟩ :=
      h.owned line (List.mem_of_mem_filter hline) id hid
    exact ⟨r, hr, hrid, hrname, fun row hrow => hrowner row (List.mem_of_mem_filter hrow)⟩

/-! ### Lines -/

/-- What a new line says of its mood is so, should its references be alive: the mood is one of the
owner of its conversation and has the stored name, and without a mood the name is built in. -/
structure Grounded (catalogs : Set (Catalog Mood)) (rows : Rows) (line : LineRow) : Prop where
  owned : ∀ id, line.mood = some id → ∀ row ∈ rows.moods, row.id = id →
    row.name = line.moodName ∧
      ∀ conversation ∈ rows.conversations, conversation.id = line.conversation →
        conversation.owner = row.owner
  builtin : line.mood = none → ∃ catalog ∈ catalogs, catalog.contains line.moodName = true

lemma insertLine_of_taken {line : LineRow}
    (htaken : rows.lines.any (fun other => other.publicId == line.publicId) = true) :
    rows.insertLine line = (.error (takenId "lines"), rows) := by
  simp only [insertLine, htaken, if_true]

lemma insertLine_of_dangling {line : LineRow}
    (hfree : rows.lines.any (fun other => other.publicId == line.publicId) = false)
    (hlive : rows.refersToLive line = false) :
    rows.insertLine line = (.error danglingReference, rows) := by
  have hlive' : rows.refersToLive { line with id := rows.lastLine + 1 } = false := hlive
  simp only [insertLine, hfree, hlive', Bool.false_eq_true, if_false, Bool.not_false, if_true]

lemma insertLine_of_live {line : LineRow}
    (hfree : rows.lines.any (fun other => other.publicId == line.publicId) = false)
    (hlive : rows.refersToLive line = true) :
    rows.insertLine line = (.ok { line with id := rows.lastLine + 1 },
      { rows with
        lines := rows.lines ++ [{ line with id := rows.lastLine + 1 }]
        lastLine := rows.lastLine + 1 }) := by
  have hlive' : rows.refersToLive { line with id := rows.lastLine + 1 } = true := hlive
  simp only [insertLine, hfree, hlive', Bool.false_eq_true, if_false, Bool.not_true]

lemma refersToLive_iff {line : LineRow} :
    rows.refersToLive line = true ↔
      (∃ row ∈ rows.conversations, row.id = line.conversation) ∧
        ∀ id, line.mood = some id → ∃ row ∈ rows.moods, row.id = id := by
  cases hmood : line.mood <;> simp [refersToLive, hmood]

lemma Sound.insertLine (h : Sound catalogs rows) {line : LineRow}
    (hline : Grounded catalogs rows line) :
    Sound catalogs (rows.insertLine line).2 ∧ Later rows (rows.insertLine line).2 := by
  cases hfree : rows.lines.any fun other => other.publicId == line.publicId with
  | true =>
    rw [insertLine_of_taken hfree]
    exact ⟨h, .refl rows⟩
  | false =>
    cases hlive : rows.refersToLive line with
    | false =>
      rw [insertLine_of_dangling hfree hlive]
      exact ⟨h, .refl rows⟩
    | true =>
      rw [insertLine_of_live hfree hlive]
      obtain ⟨hhome, hmood⟩ := refersToLive_iff.mp hlive
      refine ⟨{ h with
        lines := h.lines.append rfl
        line_distinct := nodup_append_of_free h.line_distinct hfree
        home := ?_
        owned := ?_
        builtin := ?_ }, ⟨.refl, .refl, .append rfl⟩⟩
      · intro other hother
        rcases List.mem_append.mp hother with hother | hother
        · exact h.home other hother
        · obtain rfl := List.mem_singleton.mp hother
          exact hhome
      · intro other hother id hid
        rcases List.mem_append.mp hother with hother | hother
        · exact h.owned other hother id hid
        · obtain rfl := List.mem_singleton.mp hother
          -- the mood row was found before, and a live row is as it was then
          obtain ⟨row, hrow, hrid⟩ := hmood id hid
          exact ⟨row, hrow, hrid, hline.owned id hid row hrow hrid⟩
      · intro other hother hnone
        rcases List.mem_append.mp hother with hother | hother
        · exact h.builtin other hother hnone
        · obtain rfl := List.mem_singleton.mp hother
          exact hline.builtin hnone

lemma Sound.deleteLine (h : Sound catalogs rows) (owner conversation publicId : String) :
    Sound catalogs (rows.deleteLine owner conversation publicId).2 ∧
      Later rows (rows.deleteLine owner conversation publicId).2 :=
  ⟨h.filterLines _, .refl, .refl, .filter _⟩

end MoodStore.Rows
