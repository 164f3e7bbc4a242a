import MoodStore.Proofs.Account.Dependents
import MoodStore.Proofs.Service.Blame
import MoodStore.Proofs.Service.OwnLog

/-!
Internal faults.

As long as the database itself does not fail, a call answers an internal fault in two cases only:
when all ids that it draws are taken, and when it has to show a line whose built-in mood is none of
the service that reads it. Whatever constraint a statement violates, the caller is told what is
wrong. A call logs an error just when it answers an internal fault.
-/

namespace MoodStore

open Listing

variable {ρ α β : Type} {catalogs : Set (Catalog Mood)} {rows : Rows}

/-! ### Lines that cannot be shown -/

/-- The line has a built-in mood, but none of these has its name. -/
def LineRow.IsForeign (line : LineRow) (builtins : Catalog Mood) : Prop :=
  line.mood = none ∧ ∀ mood ∈ builtins.entries, foldCase mood.name ≠ foldCase line.moodName

def LineRow.fault (line : LineRow) : InternalFault :=
  .invalidData s!"unknown built-in mood `{line.moodName}` in lines.mood_name"

lemma mapM_cons_eq_error_iff {ε : Type} {f : α → Except ε β} {head : α} {items : List α}
    {error : ε} : (head :: items).mapM f = .error error ↔
      f head = .error error ∨ (∃ result, f head = .ok result) ∧ items.mapM f = .error error := by
  rw [List.mapM_cons]
  cases f head with
  | error refused =>
    have hstop : (.error refused : Except ε (List β)) = .error error ↔
        (.error refused : Except ε β) = .error error := by
      simp only [Except.error.injEq]
    refine hstop.trans (or_iff_left_of_imp ?_).symm
    rintro ⟨⟨_, ⟨⟩⟩, -⟩
  | ok result =>
    refine .trans ?_ (or_iff_right_of_imp (by rintro ⟨⟩)).symm
    rw [and_iff_right ⟨result, rfl⟩]
    cases items.mapM f with
    | error refused => exact Iff.rfl
    | ok results => exact iff_of_false (by rintro ⟨⟩) (by rintro ⟨⟩)

lemma mapM_eq_error_iff {ε : Type} {f : α → Except ε β} {items : List α} {error : ε} :
    items.mapM f = .error error ↔ ∃ before item after, items = before ++ item :: after ∧
      (∀ other ∈ before, ∃ result, f other = .ok result) ∧ f item = .error error := by
  induction items with
  | nil =>
    refine iff_of_false (by rintro ⟨⟩) ?_
    rintro ⟨before, item, after, hitems, -⟩
    exact List.append_ne_nil_of_right_ne_nil before (List.cons_ne_nil _ _) hitems.symm
  | cons head items ih =>
    rw [mapM_cons_eq_error_iff, ih]
    constructor
    · rintro (hhead | ⟨hhead, before, item, after, rfl, hbefore, hitem⟩)
      · exact ⟨[], head, items, rfl, List.forall_mem_nil _, hhead⟩
      · exact ⟨head :: before, item, after, rfl, List.forall_mem_cons.mpr ⟨hhead, hbefore⟩, hitem⟩
    · rintro ⟨before, item, after, hitems, hbefore, hitem⟩
      cases before with
      | nil =>
        obtain ⟨rfl, -⟩ := List.cons.inj hitems
        exact .inl hitem
      | cons first before =>
        obtain ⟨rfl, rfl⟩ := List.cons.inj hitems
        obtain ⟨hhead, hbefore⟩ := List.forall_mem_cons.mp hbefore
        exact .inr ⟨hhead, before, item, after, rfl, hbefore, hitem⟩

namespace Rows.Sound

variable {builtins : Catalog Mood}

lemma showLine_cases (h : rows.Sound catalogs) (builtins : Catalog Mood) {line : LineRow}
    (hline : line ∈ rows.lines) :
    line.IsForeign builtins ∧
        Conversations.showLine builtins rows line = .error (.internal line.fault) ∨
      ¬line.IsForeign builtins ∧
        ∃ shown, Conversations.showLine builtins rows line = .ok shown := by
  cases hmood : line.mood with
  | some id =>
    obtain ⟨row, hrow, rfl, -⟩ := h.owned line hline id hmood
    obtain ⟨found, hfound⟩ : ∃ found, rows.moodOf? line = some found := by
      rw [moodOf?, hmood, Option.bind_some, ← Option.isSome_iff_exists, List.find?_isSome]
      exact ⟨row, hrow, beq_self_eq_true _⟩
    refine .inr ⟨fun hforeign => ?_, ?_⟩
    · cases hmood.symm.trans hforeign.1
    · rw [Conversations.showLine, Conversations.lineMood, hfound]
      exact ⟨_, rfl⟩
  | none =>
    have hnone : rows.moodOf? line = none := by rw [moodOf?, hmood, Option.bind_none]
    rw [Conversations.showLine, Conversations.lineMood, hnone]
    cases hget : builtins.get? line.moodName with
    | none => exact .inl ⟨⟨hmood, Catalog.get?_eq_none_iff.mp hget⟩, rfl⟩
    | some mood =>
      refine .inr ⟨fun hforeign => ?_, _, rfl⟩
      cases hget.symm.trans (Catalog.get?_eq_none_iff.mpr hforeign.2)

lemma showLine_eq_error_iff (h : rows.Sound catalogs) {line : LineRow} (hline : line ∈ rows.lines)
    {error : Error} : Conversations.showLine builtins rows line = .error error ↔
      line.IsForeign builtins ∧ error = .internal line.fault := by
  obtain ⟨hforeign, hshow⟩ | ⟨hknown, shown, hshow⟩ := h.showLine_cases builtins hline
  · rw [hshow, Except.error.injEq, eq_comm]
    exact (and_iff_right hforeign).symm
  · rw [hshow]
    exact iff_of_false nofun fun hforeign => hknown hforeign.1

lemma exists_showLine_iff (h : rows.Sound catalogs) {line : LineRow} (hline : line ∈ rows.lines) :
    (∃ shown, Conversations.showLine builtins rows line = .ok shown) ↔
      ¬line.IsForeign builtins := by
  obtain ⟨hforeign, hshow⟩ | ⟨hknown, hshow⟩ := h.showLine_cases builtins hline
  · rw [hshow]
    exact iff_of_false nofun (not_not.mpr hforeign)
  · exact iff_of_true hshow hknown

end Rows.Sound

/-! ### The two faults -/

/-- The call cannot be carried out: all ids that it draws are taken, or it has to show a line whose
built-in mood is foreign, of which the first in the conversation is blamed. -/
inductive Unavoidable (others : Others ρ) (builtins : Catalog Mood) (rows : Rows)
    (shared : Shared ρ) : Call → InternalFault → Prop
  | createConversation {owner heading : String}
    (taken : ∀ k < Ids.maxAttempts, (others.meanwhile shared k).HitsLive .conversation) :
    Unavoidable others builtins rows shared (.createConversation owner heading)
      (.idSpaceExhausted conversationTag Ids.maxAttempts)
  | createLine {owner conversation : String} {new : NewLine} {mood : Mood}
    (named : Moods.get builtins owner new.mood shared.1 = .ok mood)
    (found : rows.findConversation? owner conversation ≠ none)
    (taken : ∀ k < Ids.maxAttempts, (others.meanwhile shared k).HitsLive .line) :
    Unavoidable others builtins rows shared (.createLine owner conversation new)
      (.idSpaceExhausted lineTag Ids.maxAttempts)
  | getConversation {owner id : String} {home : ConversationRow} {before after : List LineRow}
    {line : LineRow} (found : rows.findConversation? owner id = some home)
    (lines : rows.linesOf home.id = before ++ line :: after)
    (first : ∀ other ∈ before, ¬other.IsForeign builtins) (foreign : line.IsForeign builtins) :
    Unavoidable others builtins rows shared (.getConversation owner id) line.fault
  | getLine {owner conversation id : String} {line : LineRow}
    (found : rows.findLine? owner conversation id = some line) (foreign : line.IsForeign builtins) :
    Unavoidable others builtins rows shared (.getLine owner conversation id) line.fault

lemma Unavoidable.eq_exhausted {others : Others ρ} {builtins : Catalog Mood} {shared : Shared ρ}
    {call : Call} {fault : InternalFault} (h : Unavoidable others builtins rows shared call fault)
    (sound : rows.Sound {builtins}) : ∃ tag, fault = .idSpaceExhausted tag Ids.maxAttempts := by
  -- the mood of a line was reserved when it was created, and there is only one catalog
  have hknown : ∀ line ∈ rows.lines, ¬line.IsForeign builtins := by
    intro line hline hforeign
    obtain ⟨catalog, rfl, hreserved⟩ := sound.builtin line hline hforeign.1
    rw [Catalog.contains_eq_isSome_get?, Catalog.get?_eq_none_iff.mpr hforeign.2] at hreserved
    cases hreserved
  cases h with
  | createConversation => exact ⟨_, rfl⟩
  | createLine => exact ⟨_, rfl⟩
  | @getConversation _ _ home _ _ line _ lines _ foreign =>
    have hmem : line ∈ rows.linesOf home.id := by
      rw [lines]
      exact List.mem_append_right _ List.mem_cons_self
    exact absurd foreign (hknown line (List.mem_of_mem_filter hmem))
  | getLine found foreign => exact absurd foreign (hknown _ (List.mem_of_find?_eq_some found))

/-! ### Calls that answer no fault -/

section Calls

variable {world : World ρ} (holds : world.database.Holds catalogs rows)

include holds

lemma requiring_not_fault (statement : Rows → ℕ × Rows) :
    ¬IsFault ((do
      let deleted ← Operation.executing fun rows => (.ok (statement rows).1, (statement rows).2)
      if deleted = 0 then throw .notFound : Operation ρ Unit) world).1 := by
  rintro ⟨fault, hfault⟩
  rw [Conversations.requiring_apply, Operation.executing_apply,
    Database.write_of_rows holds.1] at hfault
  simp only [Except.mapError, Except.bind] at hfault
  split at hfault <;> cases hfault

variable (service : Service ρ)

lemma listMoods_not_fault (owner : String) (query : Query) :
    ¬IsFault (service.listMoods owner query world).1 := by
  rintro ⟨fault, hfault⟩
  rw [Service.listMoods, Service.logged_answer, Operation.reading_apply, holds.listMoods_eq,
    Account.listMoods, answer_eq_error_iff] at hfault
  obtain ⟨cursor, -, -, hcursor⟩ := hfault
  cases hcursor

lemma listConversations_not_fault (owner : String) (query : Query) :
    ¬IsFault (service.listConversations owner query world).1 := by
  rintro ⟨fault, hfault⟩
  rw [Service.listConversations, Service.logged_answer, Operation.reading_apply,
    holds.listConversations_eq, Account.listConversations, answer_eq_error_iff] at hfault
  obtain ⟨cursor, -, -, hcursor⟩ := hfault
  cases hcursor

lemma getMood_not_fault (owner name : String) :
    ¬IsFault (service.getMood owner name world).1 := by
  rintro ⟨fault, hfault⟩
  rw [Service.getMood, Service.logged_answer, Operation.reading_apply, holds.getMood_eq,
    Account.getMood] at hfault
  split at hfault <;> cases hfault

lemma setMood_not_fault (owner name eyes tongue : String) :
    ¬IsFault (service.setMood owner name eyes tongue world).1 := by
  rintro ⟨fault, hfault⟩
  obtain ⟨log, hset⟩ := service.setMood_apply owner name eyes tongue world
  rw [hset, Moods.set_apply] at hfault
  split at hfault
  · cases hfault
  · rw [Operation.executing_apply, Database.write_of_rows holds.1] at hfault
    cases hfault

lemma deleteMood_not_fault (owner name : String) :
    ¬IsFault (service.deleteMood owner name world).1 := by
  rintro ⟨fault, hfault⟩
  cases hname : service.builtins.contains name with
  | true =>
    rw [Service.deleteMood, Service.logged_answer, Moods.delete_apply, hname, if_pos rfl] at hfault
    cases hfault
  | false =>
    obtain ⟨_, -, hdeletion⟩ := holds.deleteMood service owner hname
    rcases hdeletion.answer_cases with h | h | ⟨_, h⟩ <;> cases h.symm.trans hfault

lemma deleteConversation_not_fault (owner id : String) :
    ¬IsFault (service.deleteConversation owner id world).1 := by
  rw [Service.deleteConversation, Service.logged_answer]
  exact requiring_not_fault holds fun rows => rows.deleteConversation owner id

lemma deleteLine_not_fault (owner conversation id : String) :
    ¬IsFault (service.deleteLine owner conversation id world).1 := by
  rw [Service.deleteLine, Service.logged_answer]
  exact requiring_not_fault holds fun rows => rows.deleteLine owner conversation id

/-! ### Reading lines -/

lemma getConversation_fault_iff {owner id : String} {fault : InternalFault} :
    (service.getConversation owner id world).1 = .error (.internal fault) ↔
      ∃ home before line after, rows.findConversation? owner id = some home ∧
        rows.linesOf home.id = before ++ line :: after ∧
        (∀ other ∈ before, ¬other.IsForeign service.builtins) ∧
        line.IsForeign service.builtins ∧ fault = line.fault := by
  rw [Service.getConversation, Service.logged_answer, Operation.reading_apply, Conversations.get,
    Database.rowsOrError_of_rows holds.1]
  simp only [bind, Except.bind]
  cases hfind : rows.findConversation? owner id with
  | none =>
    refine iff_of_false (by rintro ⟨⟩) ?_
    rintro ⟨_, _, _, _, hhome, -⟩
    cases hhome
  | some home =>
    have hmem : ∀ line ∈ rows.linesOf home.id, line ∈ rows.lines := fun line =>
      List.mem_of_mem_filter
    have hmap : (do
        let lines ← (rows.linesOf home.id).mapM (Conversations.showLine service.builtins rows)
        pure { home.toConversation with lines } : Except Error Conversation) =
          .error (.internal fault) ↔
        (rows.linesOf home.id).mapM (Conversations.showLine service.builtins rows) =
          .error (.internal fault) := map_eq_error_iff
    refine hmap.trans (mapM_eq_error_iff.trans ?_)
    constructor
    · rintro ⟨before, line, after, hlines, hbefore, hline⟩
      have hmem' := hlines ▸ hmem
      obtain ⟨hforeign, hfault⟩ := (holds.2.showLine_eq_error_iff
        (hmem' line (List.mem_append_right _ List.mem_cons_self))).mp hline
      refine ⟨home, before, line, after, rfl, hlines, fun other hother => ?_, hforeign,
        Error.internal.inj hfault⟩
      exact (holds.2.exists_showLine_iff (hmem' other (List.mem_append_left _ hother))).mp
        (hbefore other hother)
    · rintro ⟨_, before, line, after, hhome, hlines, hbefore, hforeign, rfl⟩
      obtain rfl := Option.some_inj.mp hhome
      have hmem' := hlines ▸ hmem
      refine ⟨before, line, after, hlines, fun other hother => ?_, ?_⟩
      · exact (holds.2.exists_showLine_iff (hmem' other (List.mem_append_left _ hother))).mpr
          (hbefore other hother)
      · exact (holds.2.showLine_eq_error_iff
          (hmem' line (List.mem_append_right _ List.mem_cons_self))).mpr ⟨hforeign, rfl⟩

lemma getLine_fault_iff {owner conversation id : String} {fault : InternalFault} :
    (service.getLine owner conversation id world).1 = .error (.internal fault) ↔
      ∃ line, rows.findLine? owner conversation id = some line ∧
        line.IsForeign service.builtins ∧ fault = line.fault := by
  rw [Service.getLine, Service.logged_answer, Operation.reading_apply, Conversations.getLine,
    Database.rowsOrError_of_rows holds.1]
  simp only [bind, Except.bind]
  cases hfind : rows.findLine? owner conversation id with
  | none =>
    refine iff_of_false (by rintro ⟨⟩) ?_
    rintro ⟨_, hline, -⟩
    cases hline
  | some line =>
    refine (holds.2.showLine_eq_error_iff (List.mem_of_find?_eq_some hfind)).trans ?_
    simp only [Option.some.injEq, exists_eq_left', Error.internal.injEq]

end Calls

/-! ### Inserting under drawn ids -/

section Drawing

variable {others : Others ρ} (act : others.Act catalogs) {world : World ρ}
  (holds : world.database.Holds catalogs rows) (builtins : Catalog Mood)

include act holds

lemma createConversation_fault_iff {owner heading : String} {fault : InternalFault} :
    ((Service.mk builtins others.draw).createConversation owner heading world).1 =
        .error (.internal fault) ↔
      fault = .idSpaceExhausted conversationTag Ids.maxAttempts ∧
        ∀ k < Ids.maxAttempts, (others.meanwhile world.shared k).HitsLive .conversation := by
  let statement (id : String) (rows : Rows) : Except Failure ConversationRow × Rows :=
    rows.insertConversation id owner heading
  have hundone : ∀ id rows failure rows', statement id rows = (.error failure, rows') →
      rows' = rows := fun _ _ _ _ => Rows.insertConversation_eq_error
  have hended := Ids.insertFrom_ended others conversationTag hundone Ids.maxAttempts 1 world
  have hexhausted := hended.exhausted_iff
  simp only [statement, Ids.collides_insertConversation_iff] at hexhausted
  rw [Service.createConversation, Service.logged_answer, Conversations.create_apply,
    Ids.insertUnique, ← hexhausted]
  rcases hinsert : Ids.insertFrom conversationTag others.draw (fun id =>
    World.execute (statement id)) World.emit 1 Ids.maxAttempts world with ⟨answer, left⟩
  rw [hinsert] at hended
  simp only at hended
  generalize left.shared = shared at hended
  cases hended with
  | inserted => exact iff_of_false (by rintro ⟨⟩) (fun h => by cases h.2)
  | exhausted =>
    constructor
    · intro hfault
      exact ⟨(Error.internal.inj (Except.error.inj hfault)).symm, rfl⟩
    · rintro ⟨rfl, -⟩
      rfl
  | @failed count failure _ _ write other =>
    -- no other constraint can be violated
    obtain ⟨rows, hrows, -⟩ := act.holds_alone holds (count + 1)
    have hmeanwhile : (others.meanwhile world.shared count).database.rows = some rows := by
      rw [Interlude.database, others.meanwhile_left]
      exact hrows.1
    rw [Database.write_of_rows hmeanwhile] at write
    obtain rfl := Rows.insertConversation_failure write
    cases other

lemma insertLine_fault_iff {owner : String} {home : ConversationRow} {mood? : Option MoodRow}
    {mood : Mood} {new : NewLine} {fault : InternalFault} :
    (Conversations.insertLine others.draw owner home mood? mood new world).1 =
        .error (.internal fault) ↔
      fault = .idSpaceExhausted lineTag Ids.maxAttempts ∧
        ∀ k < Ids.maxAttempts, (others.meanwhile world.shared k).HitsLive .line := by
  have hended := insertLine_ended act holds owner home mood? mood new
  rcases hinsert : Conversations.insertLine others.draw owner home mood? mood new world with
    ⟨answer, left⟩
  rw [hinsert] at hended
  simp only at hended ⊢
  generalize left.shared = shared at hended
  cases hended with
  | inserted free => exact iff_of_false (by rintro ⟨⟩) fun h => free h.2
  | exhausted taken =>
    constructor
    · intro hfault
      exact ⟨(Error.internal.inj (Except.error.inj hfault)).symm, taken⟩
    · rintro ⟨rfl, -⟩
      rfl
  | dangling _ free =>
    refine iff_of_false (fun hfault => ?_) fun h => free h.2
    split at hfault <;> cases hfault

lemma createLine_fault_iff {owner conversation : String} {new : NewLine} {fault : InternalFault} :
    ((Service.mk builtins others.draw).createLine owner conversation new world).1 =
        .error (.internal fault) ↔
      fault = .idSpaceExhausted lineTag Ids.maxAttempts ∧
        (∃ mood, Moods.get builtins owner new.mood world.database = .ok mood) ∧
        rows.findConversation? owner conversation ≠ none ∧
        ∀ k < Ids.maxAttempts, (others.meanwhile world.shared k).HitsLive .line := by
  rw [Service.createLine, Service.logged_answer, Conversations.createLine_apply, Moods.get]
  obtain ⟨meaning, hmeaning, -⟩ := holds.meaning_eq builtins owner new.mood
  rw [hmeaning]
  simp only [bind, Except.bind]
  cases hmood : meaning.mood? with
  | none =>
    refine iff_of_false (by rintro ⟨⟩) ?_
    rintro ⟨-, ⟨_, hget⟩, -⟩
    cases hget
  | some mood =>
    simp only [Conversations.find?_of_rows holds.1]
    cases hhome : rows.findConversation? owner conversation with
    | none => exact iff_of_false (by rintro ⟨⟩) fun h => h.2.2.1 rfl
    | some home =>
      refine (insertLine_fault_iff act holds).trans (and_congr_right fun _ => ?_)
      exact ⟨fun taken => ⟨⟨mood, rfl⟩, (by rintro ⟨⟩), taken⟩, fun h => h.2.2⟩

end Drawing

/-! ### All calls -/

/-- A call answers an internal fault just when that is unavoidable. -/
lemma perform_fault_iff {others : Others ρ} (act : others.Act catalogs) {world : World ρ}
    (holds : world.database.Holds catalogs rows) (builtins : Catalog Mood) (call : Call)
    (fault : InternalFault) :
    ((Service.mk builtins others.draw).perform call world).1 = .error (.internal fault) ↔
      Unavoidable others builtins rows world.shared call fault := by
  let service : Service ρ := ⟨builtins, others.draw⟩
  have hnever {γ : Type} {operation : Operation ρ γ} {view : γ → Reply} {call : Call}
      (hcall : service.perform call = view <$> operation)
      (hanswer : ¬IsFault (operation world).1)
      (havoidable : ¬Unavoidable others builtins rows world.shared call fault) :
      (service.perform call world).1 = .error (.internal fault) ↔
        Unavoidable others builtins rows world.shared call fault := by
    rw [hcall, Operation.map_apply, map_eq_error_iff]
    exact iff_of_false (fun h => hanswer ⟨fault, h⟩) havoidable
  -- the four calls that draw or show lines can fail so, and no other
  cases call with
  | createConversation owner heading =>
    simp only [Service.perform, Operation.map_apply, map_eq_error_iff,
      createConversation_fault_iff act holds]
    constructor
    · rintro ⟨rfl, taken⟩
      exact .createConversation taken
    · rintro ⟨taken⟩
      exact ⟨rfl, taken⟩
  | createLine owner conversation new =>
    simp only [Service.perform, Operation.map_apply, map_eq_error_iff,
      createLine_fault_iff act holds]
    constructor
    · rintro ⟨rfl, ⟨mood, named⟩, found, taken⟩
      exact .createLine named found taken
    · intro h
      cases h with
      | createLine named found taken => exact ⟨rfl, ⟨_, named⟩, found, taken⟩
  | getConversation owner id =>
    simp only [Service.perform, Operation.map_apply, map_eq_error_iff,
      getConversation_fault_iff holds]
    constructor
    · rintro ⟨home, before, line, after, found, lines, first, foreign, rfl⟩
      exact .getConversation found lines first foreign
    · intro h
      cases h with
      | getConversation found lines first foreign =>
        exact ⟨_, _, _, _, found, lines, first, foreign, rfl⟩
  | getLine owner conversation id =>
    simp only [Service.perform, Operation.map_apply, map_eq_error_iff, getLine_fault_iff holds]
    constructor
    · rintro ⟨line, found, foreign, rfl⟩
      exact .getLine found foreign
    · intro h
      cases h with
      | getLine found foreign => exact ⟨_, found, foreign, rfl⟩
  | listMoods owner query =>
    exact hnever rfl (listMoods_not_fault holds service owner query) (by rintro ⟨⟩)
  | getMood owner name =>
    exact hnever rfl (getMood_not_fault holds service owner name) (by rintro ⟨⟩)
  | setMood owner name eyes tongue =>
    exact hnever rfl (setMood_not_fault holds service owner name eyes tongue) (by rintro ⟨⟩)
  | deleteMood owner name =>
    exact hnever rfl (deleteMood_not_fault holds service owner name) (by rintro ⟨⟩)
  | listConversations owner query =>
    exact hnever rfl (listConversations_not_fault holds service owner query) (by rintro ⟨⟩)
  | deleteConversation owner id =>
    exact hnever rfl (deleteConversation_not_fault holds service owner id) (by rintro ⟨⟩)
  | deleteLine owner conversation id =>
    exact hnever rfl (deleteLine_not_fault holds service owner conversation id) (by rintro ⟨⟩)

/-- **Internal faults are unavoidable.** On every database that callers can leave, and whatever
other callers do at the draws, a call answers an internal fault just when all ids that it draws are
taken, or when it has to show a line whose built-in mood is none of its service. It logs an error
just then; for what it logs, the events of the others are kept apart, which changes nothing else.
Where all services have the same built-in moods, only the ids can run out. -/
theorem internal_faults_are_unavoidable {others : Others ρ} (act : others.Act catalogs)
    (builtins : Catalog Mood) {world : World ρ} (reachable : Reachable catalogs world.database)
    (call : Call) :
    let service : Service ρ := ⟨builtins, others.draw⟩
    let alone : Service ρ := ⟨builtins, others.quiet.draw⟩
    let outcome := service.perform call world
    let own := alone.perform call ⟨world.database, [], world.source⟩
    ∃ rows, world.database.rows = some rows ∧
      (∀ fault, outcome.1 = .error (.internal fault) ↔
        Unavoidable others builtins rows world.shared call fault) ∧
      (own.1 = outcome.1 ∧ own.2.shared = outcome.2.shared) ∧
      (HasError own.2.log ↔ IsFault outcome.1) ∧
      (catalogs ⊆ {builtins} → ∀ fault, outcome.1 = .error (.internal fault) →
        ∃ tag, fault = .idSpaceExhausted tag Ids.maxAttempts) := by
  intro service alone outcome own
  obtain ⟨rows, holds⟩ := reachable.holds
  have hfault := perform_fault_iff act holds builtins call
  let cleared : World ρ := ⟨world.database, [], world.source⟩
  have hcleared : world.shared = cleared.shared := rfl
  obtain ⟨hanswer, hshared⟩ := SameButLog.perform others builtins call hcleared
  have hreports : Reports (alone.perform call) := Reports.perform others.quiet_log call
  obtain ⟨events, hevents, herror⟩ := hreports cleared
  refine ⟨rows, holds.1, hfault, ⟨hanswer.symm, hshared.symm⟩, ?_, fun hsame fault h => ?_⟩
  · have hlog : own.2.log = events := hevents
    rw [hlog, herror, ← hanswer]
  · exact ((hfault fault).mp h).eq_exhausted (holds.2.mono hsame)

/-- A service without built-in moods cannot show a line that has one, and no id is free while all
draws give the same number. -/
theorem faults_of_a_foreign_mood_and_of_taken_ids :
    let turn (call : Call) : Turn := ⟨builtinMoods, call, fun _ => 7⟩
    let world : World ℕ := ⟨Turn.left [turn (.createConversation "ann" "notes"),
      turn (.createLine "ann" "cv_7" ⟨"cow", false, "borg", "moo"⟩)] .fresh, [], 0⟩
    let others : Others ℕ := fun shared => ⟨7, shared, []⟩
    let service : Service ℕ := ⟨⟨[]⟩, others.draw⟩
    let alone : Service ℕ := ⟨⟨[]⟩, others.quiet.draw⟩
    let read : Call := .getConversation "ann" "cv_7"
    let create : Call := .createConversation "bob" "plans"
    others.Act {builtinMoods} ∧ Reachable {builtinMoods} world.database ∧
      (service.perform read world).1 =
        .error (.internal (.invalidData "unknown built-in mood `borg` in lines.mood_name")) ∧
      HasError (alone.perform read world).2.log ∧
      (service.perform create world).1 = .error (.internal (.idSpaceExhausted "cv_" 16)) ∧
      HasError (alone.perform create world).2.log := by
  intro turn world others service alone read create
  have act : others.Act {builtinMoods} := fun shared => .refl shared.1
  have reachable : Reachable {builtinMoods} world.database :=
    Turn.left_reaches _ (by simp [turn]) .fresh
  have hread : (service.perform read world).1 =
      .error (.internal (.invalidData "unknown built-in mood `borg` in lines.mood_name")) := by
    decide +kernel
  have hcreate : (service.perform create world).1 =
      .error (.internal (.idSpaceExhausted "cv_" 16)) := by
    decide +kernel
  obtain ⟨_, -, -, -, herror, -⟩ := internal_faults_are_unavoidable act ⟨[]⟩ reachable read
  obtain ⟨_, -, -, -, herror', -⟩ := internal_faults_are_unavoidable act ⟨[]⟩ reachable create
  exact ⟨act, reachable, hread, herror.mpr ⟨_, hread⟩, hcreate, herror'.mpr ⟨_, hcreate⟩⟩

end MoodStore
