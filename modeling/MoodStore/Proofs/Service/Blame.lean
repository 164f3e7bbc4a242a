import MoodStore.Proofs.Service.Attempts

/-!
What the refusal of a new line says.

The mood and the conversation of a line are looked up before it is inserted, and other callers may
delete either of them in between. The insert then fails without telling which of them is gone, and
the conversation is looked up once more by its public id. If none is found, the conversation is
gone. If one is found, the mood is blamed; but what is found can be a conversation that has the id
of the one that is gone, and then the mood may be alive, or built in.
-/

namespace MoodStore

variable {ρ : Type} {catalogs : Set (Catalog Mood)}

namespace Rows

variable {rows : Rows}

def LacksConversation (rows : Rows) (home : ConversationRow) : Prop :=
  ∀ row ∈ rows.conversations, row.id ≠ home.id

def LacksMood (rows : Rows) (mood : MoodRow) : Prop := ∀ row ∈ rows.moods, row.id ≠ mood.id

lemma lacks_of_refersToLive_eq_false {home : ConversationRow} {mood? : Option MoodRow}
    {moodName id : String} {line : NewLine}
    (h : rows.refersToLive (Conversations.newRow home mood? moodName id line) = false) :
    rows.LacksConversation home ∨ ∃ mood, mood? = some mood ∧ rows.LacksMood mood := by
  by_contra hlive
  rw [not_or] at hlive
  obtain ⟨hhome, hmood⟩ := hlive
  have hrefers : rows.refersToLive (Conversations.newRow home mood? moodName id line) = true := by
    refine refersToLive_iff.mpr ⟨?_, fun place hplace => ?_⟩
    · simpa [LacksConversation, Conversations.newRow] using hhome
    · obtain ⟨mood, hmood?, rfl⟩ := Option.map_eq_some_iff.mp hplace
      simpa [LacksMood] using not_exists.mp hmood mood ∘ And.intro hmood?
  rw [hrefers] at h
  cases h

end Rows

/-- What the error of a line says of the tables that it leaves, where its conversation was found and
its mood, in this row or built in. Of a conversation that is gone it matters whether another one has
its id by then. -/
inductive LineRefused (rows : Rows) (home : ConversationRow) (mood? : Option MoodRow)
    (name : String) : Error → Prop
  | exhausted : LineRefused rows home mood? name
    (.internal (.idSpaceExhausted lineTag Ids.maxAttempts))
  | conversation (gone : rows.LacksConversation home)
    (unnamed : rows.findConversation? home.owner home.publicId = none) :
    LineRefused rows home mood? name .notFound
  | mood {row : MoodRow} (found : mood? = some row) (gone : rows.LacksMood row) :
    LineRefused rows home mood? name (Conversations.unknownMood name)
  | replaced {other : ConversationRow} (gone : rows.LacksConversation home)
    (renamed : rows.findConversation? home.owner home.publicId = some other) :
    LineRefused rows home mood? name (Conversations.unknownMood name)

lemma Others.Act.holds_alone {others : Others ρ} (act : others.Act catalogs) {world : World ρ}
    {before : Rows} (holds : world.database.Holds catalogs before) (count : ℕ) :
    ∃ rows, (others.alone count world.shared).1.Holds catalogs rows ∧ before.Later rows :=
  (act.reaches count world.shared).keeps before holds

/-- The outcome of the attempts to insert a line whose mood and conversation were found: what it is,
and what it leaves of the shared state. When the line would dangle, the conversation is looked up
once more. -/
inductive LineEnded (others : Others ρ) (shared : Shared ρ) (owner : String)
    (home : ConversationRow) (mood? : Option MoodRow) (mood : Mood) (new : NewLine) :
    Except Error Line → Shared ρ → Prop
  | inserted {line : Line} {after : Shared ρ}
    (free : ¬∀ k < Ids.maxAttempts, (others.meanwhile shared k).HitsLive .line) :
    LineEnded others shared owner home mood? mood new (.ok line) after
  | exhausted (taken : ∀ k < Ids.maxAttempts, (others.meanwhile shared k).HitsLive .line) :
    LineEnded others shared owner home mood? mood new
      (.error (.internal (.idSpaceExhausted lineTag Ids.maxAttempts)))
      (others.alone Ids.maxAttempts shared)
  | dangling {count : ℕ} {rows : Rows} {id : String} (hlt : count < Ids.maxAttempts)
    (free : ¬∀ k < Ids.maxAttempts, (others.meanwhile shared k).HitsLive .line)
    (left : (others.alone (count + 1) shared).1.rows = some rows)
    (lacks : rows.refersToLive (Conversations.newRow home mood? mood.name id new) = false) :
    LineEnded others shared owner home mood? mood new
      (.error (if (rows.findConversation? owner home.publicId).isNone then .notFound
        else Conversations.unknownMood new.mood))
      (others.alone (count + 1) shared)

section Line

variable {others : Others ρ} (act : others.Act catalogs) {world : World ρ} {before : Rows}
  (holds : world.database.Holds catalogs before)

include act holds

lemma insertLine_ended (owner : String) (home : ConversationRow) (mood? : Option MoodRow)
    (mood : Mood) (new : NewLine) :
    let outcome := Conversations.insertLine others.draw owner home mood? mood new world
    LineEnded others world.shared owner home mood? mood new outcome.1 outcome.2.shared := by
  let line (id : String) : LineRow := Conversations.newRow home mood? mood.name id new
  have hundone : ∀ id rows failure rows',
      Rows.insertLine rows (line id) = (.error failure, rows') → rows' = rows :=
    fun _ _ _ _ => Rows.insertLine_eq_error
  have hended := Ids.insertFrom_ended others lineTag hundone Ids.maxAttempts 1 world
  have hid : ∀ id, (line id).publicId = id := fun _ => rfl
  have hexhausted := hended.exhausted_iff
  intro outcome
  simp only [outcome, Conversations.insertLine_apply, Ids.insertUnique]
  rcases hinsert : Ids.insertFrom lineTag others.draw (fun id => World.execute fun rows =>
    rows.insertLine (line id)) World.emit 1 Ids.maxAttempts world with ⟨answer, left⟩
  rw [hinsert] at hended hexhausted
  simp only [Ids.collides_insertLine_iff hid] at hended hexhausted
  generalize hleft : left.shared = shared at hended
  cases hended with
  | inserted => exact .inserted fun taken => by cases hexhausted.mpr taken
  | exhausted => exact hleft ▸ .exhausted (hexhausted.mp rfl)
  | @failed count failure hlt _ write other =>
    obtain ⟨rows, hrows, -⟩ := act.holds_alone holds (count + 1)
    have hmeanwhile : (others.meanwhile world.shared count).database.rows = some rows := by
      rw [Interlude.database, others.meanwhile_left]
      exact hrows.1
    rw [Database.write_of_rows hmeanwhile] at write
    rcases Rows.insertLine_error_cases write with ⟨-, rfl⟩ | ⟨-, hdangling, rfl⟩
    · -- an id that is taken is tried again
      cases other
    · have hdatabase : left.database.rows = some rows := (congrArg (·.1.rows) hleft).trans hrows.1
      have hfault : Fault.classify danglingReference = .foreignKeyViolation danglingReference := rfl
      simp only [hfault, Conversations.find?_of_rows hdatabase, Except.bind]
      exact hleft ▸ .dangling hlt (fun taken => by cases hexhausted.mpr taken) hrows.1 hdangling

variable {home : ConversationRow}
  (hhome : before.findConversation? home.owner home.publicId = some home)

include hhome

lemma lineRefused_of_dangling {mood? : Option MoodRow} {moodName id : String} {new : NewLine}
    {count : ℕ} {rows : Rows} (hrows : (others.alone count world.shared).1.rows = some rows)
    (hdangling : rows.refersToLive (Conversations.newRow home mood? moodName id new) = false) :
    LineRefused rows home mood? new.mood
      (if (rows.findConversation? home.owner home.publicId).isNone then .notFound
        else Conversations.unknownMood new.mood) := by
  obtain ⟨_, holds', later⟩ := act.holds_alone holds count
  obtain rfl := Option.some_inj.mp (hrows.symm.trans holds'.1)
  cases hfind : rows.findConversation? home.owner home.publicId with
  | none =>
    -- were the conversation alive, it would be found by its id
    refine .conversation (fun row hrow hid => ?_) hfind
    rw [later.findConversation?_eq holds.2 holds'.2 hhome ⟨row, hrow, hid⟩] at hfind
    cases hfind
  | some other =>
    rcases Rows.lacks_of_refersToLive_eq_false hdangling with hgone | ⟨mood, hmood, hgone⟩
    · exact .replaced hgone hfind
    · exact .mood hmood hgone

/-- A refused line leaves what the others leave, and its error says what is gone of that. -/
lemma insertLine_refused (mood? : Option MoodRow) (mood : Mood) (new : NewLine) {error : Error}
    {after : World ρ}
    (houtcome : Conversations.insertLine others.draw home.owner home mood? mood new world =
      (.error error, after)) :
    ∃ count ≤ Ids.maxAttempts, ∃ rows, after.shared = others.alone count world.shared ∧
      after.database.rows = some rows ∧ LineRefused rows home mood? new.mood error := by
  have hended := insertLine_ended act holds home.owner home mood? mood new
  rw [houtcome] at hended
  simp only at hended
  generalize hleft : after.shared = shared at hended
  cases hended with
  | exhausted =>
    obtain ⟨rows, hrows, -⟩ := act.holds_alone holds Ids.maxAttempts
    rw [← hleft] at hrows
    exact ⟨Ids.maxAttempts, le_rfl, rows, rfl, hrows.1, .exhausted⟩
  | @dangling count rows id hlt _ hrows hdangling =>
    refine ⟨count + 1, hlt, rows, rfl, (congrArg (·.1.rows) hleft).trans hrows, ?_⟩
    exact lineRefused_of_dangling act holds hhome hrows hdangling

end Line

/-- **A refused line lacks what its error names, or its conversation was replaced.** Whatever other
callers do at the draws, a line whose mood and conversation were found is refused only if the drawn
ids are taken, or if others have deleted the conversation or the mood row. The error names the one
that is gone, unless the owner has another conversation under the id of the one that is gone. -/
theorem refused_lines_lack_a_row {others : Others ρ} (act : others.Act catalogs)
    (builtins : Catalog Mood) {world : World ρ} (reachable : Reachable catalogs world.database)
    {owner conversation : String} {new : NewLine} {meaning : Moods.Meaning} {mood : Mood}
    {home : ConversationRow}
    (hmeaning : Moods.meaning builtins owner new.mood world.database = .ok meaning)
    (hmood : meaning.mood? = some mood)
    (hhome : Conversations.find? owner conversation world.database = .ok (some home)) :
    let service : Service ρ := ⟨builtins, others.draw⟩
    ∀ error after, service.createLine owner conversation new world = (.error error, after) →
      ∃ count ≤ Ids.maxAttempts, ∃ rows, after.shared = others.alone count world.shared ∧
        after.database.rows = some rows ∧ LineRefused rows home meaning.row? new.mood error := by
  intro service error after houtcome
  obtain ⟨before, holds⟩ := reachable.holds
  rw [Conversations.find?_of_rows holds.1, Except.ok.injEq] at hhome
  obtain ⟨-, rfl, rfl⟩ := holds.2.findConversation?_eq_some_iff.mp hhome
  have hcreate : Conversations.createLine builtins others.draw home.owner home.publicId new world =
      Conversations.insertLine others.draw home.owner home meaning.row? mood new world := by
    simp only [Conversations.createLine_apply, hmeaning, hmood,
      Conversations.find?_of_rows holds.1, hhome]
  simp only [service, Service.createLine, Service.logged_apply, hcreate] at houtcome
  rcases hinsert : Conversations.insertLine others.draw home.owner home meaning.row? mood new world
    with ⟨_ | _, left⟩
  · rw [hinsert] at houtcome
    cases houtcome
    obtain ⟨count, hcount, rows, hleft, hrows, hrefused⟩ :=
      insertLine_refused act holds hhome meaning.row? mood new hinsert
    exact ⟨count, hcount, rows, hleft, hrows, hrefused⟩
  · rw [hinsert] at houtcome
    cases houtcome

theorem refused_line_lacks_its_mood :
    let delete : Turn := ⟨builtinMoods, .deleteMood "ann" "calm", fun _ => 0⟩
    let others : Others ℕ := fun shared => ⟨8, (delete.after shared.1, shared.2 + 1), []⟩
    let service : Service ℕ := ⟨builtinMoods, others.draw⟩
    let paint : Turn := ⟨builtinMoods, .setMood "ann" "calm" "oo" "  ", fun _ => 0⟩
    let create : Turn := ⟨builtinMoods, .createConversation "ann" "notes", fun _ => 7⟩
    let world : World ℕ := ⟨create.after (paint.after .fresh), [], 0⟩
    let new : NewLine := ⟨"cow", false, "Calm", "moo"⟩
    let row : MoodRow := ⟨1, "ann", "calm", "calm", "oo", "  "⟩
    let home : ConversationRow := ⟨1, "cv_7", "ann", "notes"⟩
    others.Act {builtinMoods} ∧ Reachable {builtinMoods} world.database ∧
      Moods.meaning builtinMoods "ann" "Calm" world.database = .ok (.owned row) ∧
      Conversations.find? "ann" "cv_7" world.database = .ok (some home) ∧
      ∃ error after, service.createLine "ann" "cv_7" new world = (.error error, after) ∧
        error = Conversations.unknownMood "Calm" ∧
        ∃ count ≤ Ids.maxAttempts, ∃ rows, after.shared = others.alone count world.shared ∧
          after.database.rows = some rows ∧ LineRefused rows home (some row) "Calm" error := by
  intro delete others service paint create world new row home
  have act : others.Act {builtinMoods} := fun shared =>
    delete.reaches (Set.mem_singleton _) shared.1
  have reachable : Reachable {builtinMoods} world.database :=
    (paint.reaches (Set.mem_singleton _) .fresh).trans
      (create.reaches (Set.mem_singleton _) (paint.after .fresh))
  have hmeaning : Moods.meaning builtinMoods "ann" "Calm" world.database = .ok (.owned row) := by
    decide +kernel
  have hhome : Conversations.find? "ann" "cv_7" world.database = .ok (some home) := by
    decide +kernel
  have hmood : (Moods.Meaning.owned row).mood? = some row.toMood := rfl
  have herror : (service.createLine "ann" "cv_7" new world).1 =
      .error (Conversations.unknownMood "Calm") := by
    decide +kernel
  have houtcome : service.createLine "ann" "cv_7" new world =
      (.error (Conversations.unknownMood "Calm"),
        (service.createLine "ann" "cv_7" new world).2) := Prod.ext herror rfl
  exact ⟨act, reachable, hmeaning, hhome, _, _, houtcome, rfl,
    refused_lines_lack_a_row act builtinMoods reachable hmeaning hmood hhome _ _ houtcome⟩

/-- A built-in mood is blamed: while Ann writes a line, others delete its conversation and create
another one under its id. -/
theorem built_in_mood_blamed_for_a_replaced_conversation :
    let delete : Turn := ⟨builtinMoods, .deleteConversation "ann" "cv_0", fun _ => 0⟩
    let create (heading : String) (draw : UInt64) : Turn :=
      ⟨builtinMoods, .createConversation "ann" heading, fun _ => draw⟩
    let write : Turn :=
      ⟨builtinMoods, .createLine "ann" "cv_9" ⟨"cow", false, "borg", "moo"⟩, fun _ => 5⟩
    let others : Others ℕ := fun shared =>
      if shared.2 = 0 then ⟨5, (delete.after shared.1, 1), []⟩
      else ⟨6, ((create "again" 0).after shared.1, 2), []⟩
    let service : Service ℕ := ⟨builtinMoods, others.draw⟩
    let world : World ℕ :=
      ⟨write.after ((create "other" 9).after ((create "notes" 0).after .fresh)), [], 0⟩
    let new : NewLine := ⟨"cow", false, "borg", "moo"⟩
    let outcome := service.createLine "ann" "cv_0" new world
    others.Act {builtinMoods} ∧ Reachable {builtinMoods} world.database ∧
      Moods.meaning builtinMoods "ann" "borg" world.database =
        .ok (.builtin (.builtin "borg" "==" "  ")) ∧
      Conversations.find? "ann" "cv_0" world.database =
        .ok (some ⟨1, "cv_0", "ann", "notes"⟩) ∧
      outcome.1 = .error (.validation "mood" "\"borg\" does not exist") ∧
      outcome.2.database.rows.map Rows.conversations =
        some [⟨2, "cv_9", "ann", "other"⟩, ⟨3, "cv_0", "ann", "again"⟩] := by
  intro delete create write others service world new outcome
  have act : others.Act {builtinMoods} := by
    intro shared
    simp only [others]
    split
    · exact delete.reaches (Set.mem_singleton _) shared.1
    · exact (create "again" 0).reaches (Set.mem_singleton _) shared.1
  have reachable : Reachable {builtinMoods} world.database :=
    (((create "notes" 0).reaches (Set.mem_singleton _) .fresh).trans
      ((create "other" 9).reaches (Set.mem_singleton _) _)).trans
        (write.reaches (Set.mem_singleton _) _)
  exact ⟨act, reachable, by decide +kernel⟩

end MoodStore
