import MoodStore.Proofs.Account.Model
import MoodStore.Proofs.Service.Listings

/-!
The accounts that the tables hold.

Sound tables hold an account for every owner. What a statement looks up is in the account, and what
it writes changes the account of one owner as the account itself would be changed; the accounts of
all others stay what they are.
-/

namespace MoodStore

/-- The line without the row ids that it refers to. -/
def LineRow.toNote (line : LineRow) : Note :=
  ⟨line.publicId, line.mood.isSome, line.moodName, line.animal, line.think, line.text⟩

namespace Rows

def document (rows : Rows) (row : ConversationRow) : Document :=
  ⟨row.publicId, row.heading, (rows.linesOf row.id).map LineRow.toNote⟩

/-- What an owner has. -/
def account (rows : Rows) (owner : String) : Account :=
  ⟨(rows.moodsOf owner).map MoodRow.toMood, (rows.conversationsOf owner).map rows.document⟩

/-- The owner is left with this account, and all others with what they have. -/
structure Leaves (rows : Rows) (owner : String) (account : Account) (rows' : Rows) : Prop where
  own : rows'.account owner = account
  others : ∀ other, other ≠ owner → rows'.account other = rows.account other

lemma account_empty (owner : String) : empty.account owner = .empty := rfl

lemma Leaves.refl (rows : Rows) (owner : String) : rows.Leaves owner (rows.account owner) rows :=
  ⟨rfl, fun _ _ => rfl⟩

variable {catalogs : Set (Catalog Mood)} {rows : Rows}

lemma find?_congr_of_mem {α : Type} {p q : α → Bool} {table : List α}
    (h : ∀ row ∈ table, p row = q row) : table.find? p = table.find? q := by
  rw [← List.head?_filter, List.filter_congr h, List.head?_filter]

/-! ### Moods -/

lemma mem_moodsOf {owner : String} {row : MoodRow} :
    row ∈ rows.moodsOf owner ↔ row ∈ rows.moods ∧ row.owner = owner := by
  simp [moodsOf]

namespace Sound

lemma hasKey_toMood (h : rows.Sound catalogs) {row : MoodRow} (hrow : row ∈ rows.moods)
    (key : String) : Account.hasKey key row.toMood = (row.key == key) := by
  rw [h.key row hrow]
  rfl

lemma account_mood? (h : rows.Sound catalogs) (owner key : String) :
    (rows.account owner).mood? key = (rows.findMood? owner key).map MoodRow.toMood := by
  rw [findMood?_eq_find?, Account.mood?, account, List.find?_map]
  refine congrArg _ (find?_congr_of_mem fun row hrow => ?_)
  exact h.hasKey_toMood (mem_moodsOf.mp hrow).1 key

lemma toMood_repaint (h : rows.Sound catalogs) {row : MoodRow} (hrow : row ∈ rows.moods)
    (key eyes tongue : String) :
    (repaint row.owner key eyes tongue row).toMood =
      Account.repainted key eyes tongue row.toMood := by
  unfold repaint Account.repainted
  rw [h.hasKey_toMood hrow, isMood, beq_self_eq_true, Bool.true_and]
  split <;> rfl

end Sound

lemma repaint_of_ne {owner : String} {row : MoodRow} (h : row.owner ≠ owner)
    (key eyes tongue : String) : repaint owner key eyes tongue row = row := by
  simp [repaint, isMood, h]

lemma filter_repaint (owner key eyes tongue other : String) (moods : List MoodRow) :
    (moods.map (repaint owner key eyes tongue)).filter (fun row => row.owner == other) =
      (moods.filter fun row => row.owner == other).map (repaint owner key eyes tongue) := by
  simp [List.filter_map, Function.comp_def]

lemma Sound.writeMood_leaves (h : rows.Sound catalogs) (owner name eyes tongue : String) :
    (rows.writeMood owner name eyes tongue).1 =
        ((rows.account owner).writeMood name eyes tongue).1 ∧
      rows.Leaves owner ((rows.account owner).writeMood name eyes tongue).2
        (rows.writeMood owner name eyes tongue).2 := by
  have hmood := h.account_mood? owner (foldCase name)
  cases hfind : rows.findMood? owner (foldCase name) with
  | some row =>
    rw [hfind, Option.map_some] at hmood
    rw [h.writeMood_of_some hfind]
    simp only [Account.writeMood, hmood]
    refine ⟨rfl, ?_, fun other hother => ?_⟩
    · simp only [account, moodsOf, filter_repaint, List.map_map]
      congr 1
      refine List.map_congr_left fun r hr => ?_
      obtain ⟨hmem, rfl⟩ := mem_moodsOf.mp hr
      exact h.toMood_repaint hmem _ _ _
    · simp only [account, moodsOf, filter_repaint, List.map_map]
      congr 1
      refine List.map_congr_left fun r hr => ?_
      obtain ⟨-, rfl⟩ := mem_moodsOf.mp hr
      -- only a row of `owner` is painted over
      exact congrArg MoodRow.toMood (repaint_of_ne hother _ _ _)
  | none =>
    rw [hfind, Option.map_none] at hmood
    rw [writeMood_of_none eyes tongue hfind]
    simp only [Account.writeMood, hmood]
    refine ⟨trivial, ?_, fun other hother => ?_⟩
    · simp only [account, moodsOf, List.filter_append, List.map_append]
      congr 1
      simp [MoodRow.toMood]
    · simp only [account, moodsOf, List.filter_append, List.map_append]
      congr 1
      simp [hother.symm]

/-! ### Lines that refer to a mood -/

lemma mem_conversationsOf {owner : String} {row : ConversationRow} :
    row ∈ rows.conversationsOf owner ↔ row ∈ rows.conversations ∧ row.owner = owner := by
  simp [conversationsOf]

lemma countP_or_of_disjoint {α : Type} {p q : α → Bool} {table : List α}
    (h : ∀ row ∈ table, p row = true → q row = false) :
    table.countP (fun row => p row || q row) = table.countP p + table.countP q := by
  induction table with
  | nil => rfl
  | cons row table ih =>
    have htable := ih fun other hother => h other (List.mem_cons_of_mem _ hother)
    cases hp : p row with
    | true =>
      have hq := h row List.mem_cons_self hp
      simp only [List.countP_cons, hp, hq, htable, Bool.or_false, if_true, Bool.false_eq_true,
        if_false]
      omega
    | false =>
      simp only [List.countP_cons, hp, htable, Bool.false_or, Bool.false_eq_true, if_false]
      omega

lemma countP_linesOf (rows : Rows) {homes : List ConversationRow}
    (h : homes.Pairwise fun a b => a.id ≠ b.id) (p : LineRow → Bool) :
    (homes.flatMap fun row => rows.linesOf row.id).countP p =
      rows.lines.countP fun line => p line && homes.any fun row => row.id == line.conversation := by
  induction homes with
  | nil => simp
  | cons home homes ih =>
    obtain ⟨hhome, hhomes⟩ := List.pairwise_cons.mp h
    have hsplit : (fun line : LineRow => p line && (home :: homes).any fun row =>
        row.id == line.conversation) = fun line => (p line && line.conversation == home.id) ||
          (p line && homes.any fun row => row.id == line.conversation) := by
      funext line
      rw [List.any_cons, Bool.and_or_distrib_left, BEq.comm]
    rw [List.flatMap_cons, List.countP_append, ih hhomes, hsplit, countP_or_of_disjoint, linesOf,
      List.countP_filter]
    -- no line lies both in `home` and in one of the others, as their ids differ
    intro line _ hline
    simp only [Bool.and_eq_true, beq_iff_eq] at hline
    rw [Bool.and_eq_false_iff]
    refine .inr (List.any_eq_false.mpr fun row hrow => ?_)
    simpa [hline.2] using (hhome row hrow).symm

namespace Sound

/-- A line refers to the mood row with a key just when it is in the owner's conversations and has
the mood with that key. -/
lemma isUse_iff (h : rows.Sound catalogs) {line : LineRow} (hline : line ∈ rows.lines)
    (owner key : String) :
    (rows.moods.any fun row => isMood owner key row && line.mood == some row.id) =
      (Account.refersTo key line.toNote &&
        (rows.conversationsOf owner).any fun row => row.id == line.conversation) := by
  rw [Bool.eq_iff_iff]
  simp only [List.any_eq_true, Bool.and_eq_true, isMood_iff, beq_iff_eq, Account.refersTo,
    LineRow.toNote, mem_conversationsOf]
  constructor
  · rintro ⟨row, hrow, ⟨howner, hkey⟩, hmood⟩
    obtain ⟨row', hrow', hid, hname, hhome⟩ := h.owned line hline row.id hmood
    obtain rfl := h.moods.eq_of_id hrow' hrow hid
    obtain ⟨home, hhome', hhomeid⟩ := h.home line hline
    refine ⟨⟨by simp [hmood], ?_⟩, home, ⟨hhome', ?_⟩, hhomeid⟩
    · rw [← hname, ← h.key _ hrow, hkey]
    · rw [hhome home hhome' hhomeid, howner]
  · rintro ⟨⟨hsome, hkey⟩, home, ⟨hhome, howner⟩, hhomeid⟩
    obtain ⟨id, hmood⟩ := Option.isSome_iff_exists.mp hsome
    obtain ⟨row, hrow, hid, hname, hrowner⟩ := h.owned line hline id hmood
    refine ⟨row, hrow, ⟨?_, ?_⟩, by rw [hmood, hid]⟩
    · rw [← hrowner home hhome hhomeid, howner]
    · rw [h.key row hrow, hname, hkey]

lemma countLinesUsing_eq (h : rows.Sound catalogs) (owner key : String) :
    rows.countLinesUsing owner key = (rows.account owner).uses key := by
  have hhomes : (rows.conversationsOf owner).Pairwise fun a b => a.id ≠ b.id :=
    (h.conversations.ascending.imp fun hab => hab.ne).filter _
  have hcount := countP_linesOf rows hhomes fun line => Account.refersTo key line.toNote
  have hnotes : (rows.account owner).documents.flatMap Document.notes =
      ((rows.conversationsOf owner).flatMap fun row => rows.linesOf row.id).map LineRow.toNote := by
    rw [account, List.flatMap_map, List.map_flatMap]
    rfl
  rw [countLinesUsing, ← List.countP_eq_length_filter,
    List.countP_congr fun line hline => by rw [h.isUse_iff hline], ← hcount, Account.uses, hnotes,
    List.countP_map]
  rfl

end Sound

/-! ### Deleting a mood -/

lemma any_isMoodUsed_iff {owner key : String} :
    (rows.moods.filter (isMood owner key)).any rows.isMoodUsed = true ↔
      rows.countLinesUsing owner key ≠ 0 := by
  rw [countLinesUsing, Nat.ne_zero_iff_zero_lt, List.length_pos_iff_exists_mem]
  simp only [List.any_eq_true, List.mem_filter, isMoodUsed, Bool.and_eq_true]
  constructor
  · rintro ⟨row, ⟨hrow, hmood⟩, line, hline, hid⟩
    exact ⟨line, hline, row, hrow, hmood, hid⟩
  · rintro ⟨line, hline, row, hrow, hmood, hid⟩
    exact ⟨row, ⟨hrow, hmood⟩, line, hline, hid⟩

lemma filter_eq_toList_find? {α : Type} {p : α → Bool} {table : List α} (h : table.Nodup)
    (hp : ∀ a ∈ table, ∀ b ∈ table, p a = true → p b = true → a = b) :
    table.filter p = (table.find? p).toList := by
  rw [← List.head?_filter]
  rcases hfilter : table.filter p with _ | ⟨a, _ | ⟨b, rest⟩⟩
  · rfl
  · rfl
  · have ha : a ∈ table.filter p := by simp [hfilter]
    have hb : b ∈ table.filter p := by simp [hfilter]
    have hab : a = b := hp a (List.mem_filter.mp ha).1 b (List.mem_filter.mp hb).1
      (List.mem_filter.mp ha).2 (List.mem_filter.mp hb).2
    have hne := h.filter p
    simp [hfilter, hab] at hne

lemma filter_of_find?_eq_none {α : Type} {p : α → Bool} {table : List α}
    (h : table.find? p = none) :
    table.filter p = [] ∧ (table.filter fun row => !p row) = table := by
  have hnone : ∀ row ∈ table, p row = false := fun row hrow =>
    Bool.eq_false_iff.mpr (List.find?_eq_none.mp h row hrow)
  refine ⟨List.filter_eq_nil_iff.mpr fun row hrow => ?_,
    List.filter_eq_self.mpr fun row hrow => ?_⟩
  · rw [hnone row hrow]
    exact Bool.false_ne_true
  · rw [hnone row hrow]
    rfl

lemma deleteMood_of_absent {owner key : String} (habsent : rows.findMood? owner key = none) :
    rows.deleteMood owner key = (.ok 0, rows) := by
  obtain ⟨hdoomed, hkept⟩ := filter_of_find?_eq_none habsent
  rw [deleteMood_of_unused (by rw [hdoomed]; rfl), hdoomed, hkept]
  rfl

namespace Sound

lemma filter_isMood (h : rows.Sound catalogs) (owner key : String) :
    rows.moods.filter (isMood owner key) = (rows.findMood? owner key).toList := by
  refine filter_eq_toList_find? h.moods.nodup fun a ha b hb hpa hpb => ?_
  rw [isMood_iff] at hpa hpb
  exact h.mood_unique ha hb (hpa.1.trans hpb.1.symm) (hpa.2.trans hpb.2.symm)

lemma deleteMood_of_uses (h : rows.Sound catalogs) {owner key : String}
    (huses : (rows.account owner).uses key ≠ 0) :
    rows.deleteMood owner key = (.error danglingReference, rows) :=
  deleteMood_of_used (any_isMoodUsed_iff.mpr (by rwa [h.countLinesUsing_eq]))

lemma deleteMood_leaves (h : rows.Sound catalogs) {owner key : String} {row : MoodRow}
    (hfind : rows.findMood? owner key = some row) (huses : (rows.account owner).uses key = 0) :
    (rows.deleteMood owner key).1 = .ok 1 ∧
      rows.Leaves owner { rows.account owner with
        moods := (rows.account owner).moods.filter fun mood => !Account.hasKey key mood }
        (rows.deleteMood owner key).2 := by
  have hunused : (rows.moods.filter (isMood owner key)).any rows.isMoodUsed = false := by
    rw [Bool.eq_false_iff, ne_eq, any_isMoodUsed_iff, h.countLinesUsing_eq]
    simpa using huses
  rw [deleteMood_of_unused hunused, h.filter_isMood, hfind]
  refine ⟨rfl, ?_, fun other hother => ?_⟩
  · simp only [account, moodsOf, List.filter_filter, List.filter_map]
    congr 2
    refine List.filter_congr fun row hrow => ?_
    simp only [Function.comp_apply, h.hasKey_toMood hrow, isMood]
    cases row.owner == owner <;> simp
  · simp only [account, moodsOf, List.filter_filter]
    congr 2
    refine List.filter_congr fun row hrow => ?_
    by_cases howner : row.owner = other
    · simp [isMood, howner, hother]
    · simp [howner]

end Sound

end Rows

end MoodStore
