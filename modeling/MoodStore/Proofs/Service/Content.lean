import MoodStore.Proofs.Service.Alike
import MoodStore.Store.Opening

/-!
Logs carry no content.

Two runs that differ only in what the store is filled with log the same. What an operation logs is
decided by its errors, by the outcome of a write of a mood, and by counts of rows; all of these can
be seen under the veil, where the two runs are one.
-/

namespace MoodStore

variable {ρ α β γ δ : Type} {paint : Paint}

/-! ### Operations -/

/-- The worlds have alike databases, and otherwise they are the same. -/
structure World.Alike (paint : Paint) (world world' : World ρ) : Prop where
  database : world.database.Alike paint world'.database
  log : world.log = world'.log
  source : world.source = world'.source

namespace World.Alike

lemma emit (event : Event) :
    Paired (World.Alike (ρ := ρ) paint) Eq (World.emit event) (World.emit event) :=
  fun _ _ halike => ⟨rfl, halike.database, congrArg (· ++ [event]) halike.log, halike.source⟩

lemma execute {same : α → β → Prop} {statement : Rows → Except Failure α × Rows}
    {statement' : Rows → Except Failure β × Rows} (h : Matching paint same statement statement') :
    Paired (World.Alike (ρ := ρ) paint) (Agree same) (World.execute statement)
      (World.execute statement') := fun _ _ halike =>
  ⟨(halike.database.write h).1, (halike.database.write h).2, halike.log, halike.source⟩

lemma reading {same : α → β → Prop} {query : Database → Except Error α}
    {query' : Database → Except Error β}
    (h : ∀ ⦃db db'⦄, Database.Alike paint db db' → Agree same (query db) (query' db')) :
    Paired (World.Alike (ρ := ρ) paint) (Agree same) (Operation.reading query)
      (Operation.reading query') :=
  fun _ _ halike => ⟨h halike.database, halike⟩

lemma logged {same : α → β → Prop} {f : Operation ρ α} {g : Operation ρ β}
    (h : Paired (World.Alike paint) (Agree same) f g) (name : String) (view : α → γ)
    (view' : β → δ) :
    Paired (World.Alike paint) RefusedAlike (view <$> Service.logged name f : Operation ρ γ)
      (view' <$> Service.logged name g : Operation ρ δ) :=
  .map (.logged emit h name) fun _ _ _ => True.intro

section Drawing

variable {draw draw' : StateM (World ρ) UInt64}
  (hdraw : Paired (World.Alike paint) Eq draw draw')

include hdraw

lemma create (owner heading heading' : String) :
    Paired (World.Alike paint) RefusedAlike (Conversations.create draw owner heading)
      (Conversations.create draw' owner heading') :=
  .create emit hdraw (fun id => execute ((Rows.insertConversation_veiled id owner heading).matching
    (Rows.insertConversation_veiled id owner heading'))) fun _ _ _ => True.intro

lemma insertLine (owner : String) {home home' : ConversationRow}
    (hhome : home.veiled = home'.veiled) {row? row?' : Option MoodRow}
    (hrow : row?.map MoodRow.id = row?'.map MoodRow.id)
    {mood mood' : Mood} (hname : mood.name = mood'.name) {line line' : NewLine}
    (hmood : line.mood = line'.mood) :
    Paired (World.Alike paint) RefusedAlike
      (Conversations.insertLine draw owner home row? mood line)
      (Conversations.insertLine draw' owner home' row?' mood' line') := by
  obtain ⟨hid, hpublicId, -⟩ := ConversationRow.mk.inj hhome
  have hveiled (id : String) : (Conversations.newRow home row? mood.name id line).veiled =
      (Conversations.newRow home' row?' mood'.name id line').veiled := by
    simp only [Conversations.newRow, LineRow.veiled, hid, hrow, hname]
  have hinsert (id : String) : Matching paint
      (fun row row' : LineRow => row.veiled = row'.veiled)
      (fun rows => rows.insertLine (Conversations.newRow home row? mood.name id line))
      fun rows => rows.insertLine (Conversations.newRow home' row?' mood'.name id line') := by
    refine (Rows.insertLine_veiled _).matching ?_
    rw [hveiled id]
    exact Rows.insertLine_veiled _
  refine .insertLine emit hdraw (fun id => execute (hinsert id)) ?_ hmood fun _ _ _ => True.intro
  rw [hpublicId]
  -- the second look-up only tells whether the conversation is there
  refine (reading fun _ _ h => h.find? owner home'.publicId).weaken fun again? again?' hagain => ?_
  rw [← Option.isSome_map, hagain, Option.isSome_map]

lemma createLine {builtins builtins' : Catalog Mood} (hcatalog : builtins.SameIds builtins')
    (owner conversation : String) {line line' : NewLine} (hmood : line.mood = line'.mood) :
    Paired (World.Alike paint) RefusedAlike
      (Conversations.createLine builtins draw owner conversation line)
      (Conversations.createLine builtins' draw' owner conversation line') := by
  rw [Conversations.createLine, Conversations.createLine, hmood]
  refine .andThen (reading fun _ _ h => h.meaning hcatalog owner line'.mood)
    fun meaning meaning' hmeaning => ?_
  obtain ⟨hnone, hnone'⟩ | ⟨mood, mood', hsome, hsome', hname⟩ := cases_of_map_eq hmeaning.1
  · rw [hnone, hnone']
    exact .answer (.error _)
  · rw [hsome, hsome']
    refine .andThen (reading fun _ _ h => h.find? owner conversation)
      fun home? home?' hfound => ?_
    obtain ⟨rfl, rfl⟩ | ⟨home, home', rfl, rfl, hhome⟩ := cases_of_map_eq hfound
    · exact .answer (.error _)
    · exact insertLine hdraw owner hhome hmeaning.2 hname hmood

end Drawing

section Moods

variable {service service' : Service ρ} (hcatalog : service.builtins.SameIds service'.builtins)

include hcatalog

lemma set (owner name eyes tongue : String) :
    Paired (World.Alike (ρ := ρ) paint)
      (Agree fun write write' => write.outcome = write'.outcome)
      (Moods.set service.builtins owner name eyes tongue)
      (Moods.set service'.builtins owner name (paint.eyes eyes) (paint.tongue tongue)) := by
  intro world world' halike
  rw [Moods.set_apply, Moods.set_apply, hcatalog.contains]
  split
  · exact ⟨.error _, halike⟩
  · exact Paired.executing (execute ((Rows.writeMood_veiled owner name eyes tongue).matching
      (Rows.writeMood_veiled owner name (paint.eyes eyes) (paint.tongue tongue)))) halike

lemma setMood (owner name eyes tongue : String) :
    Paired (World.Alike paint) (Agree fun write write' => write.outcome = write'.outcome)
      (service.setMood owner name eyes tongue)
      (service'.setMood owner name (paint.eyes eyes) (paint.tongue tongue)) := by
  refine .andThen (.logged emit (set hcatalog owner name eyes tongue) _)
    fun write write' hwrite => ?_
  rw [hwrite]
  exact .andThen (.lift (emit _)) fun _ _ _ => .answer (.ok hwrite)

lemma delete (owner name : String) :
    Paired (World.Alike (ρ := ρ) paint) (Agree Eq) (Moods.delete service.builtins owner name)
      (Moods.delete service'.builtins owner name) := by
  intro world world' halike
  rw [Moods.delete_apply, Moods.delete_apply, hcatalog.contains]
  split
  · exact ⟨.error _, halike⟩
  · exact Paired.deleteOrReport emit (execute ((Rows.deleteMood_veiled owner _).matching
      (Rows.deleteMood_veiled owner _))) (reading fun _ _ h => h.countLinesUsing owner _) _ _ halike

end Moods

end World.Alike

/-! ### Calls -/

/-- The call brings nothing into the store. -/
def Call.isPlain : Call → Bool
  | .setMood .. | .createConversation .. | .createLine .. => false
  | _ => true

/-- The calls differ only in what they fill the store with; eyes and tongues are painted over. -/
inductive Call.Alike (paint : Paint) : Call → Call → Prop
  | setMood (owner name eyes tongue : String) :
    Alike paint (.setMood owner name eyes tongue)
      (.setMood owner name (paint.eyes eyes) (paint.tongue tongue))
  | createConversation (owner heading heading' : String) :
    Alike paint (.createConversation owner heading) (.createConversation owner heading')
  | createLine (owner conversation : String) {line line' : NewLine}
    (hmood : line.mood = line'.mood) :
    Alike paint (.createLine owner conversation line) (.createLine owner conversation line')
  | plain {call : Call} (h : call.isPlain = true) : Alike paint call call

/-- **Calls that differ in content cannot be told apart** by their errors, by what they log, or by
what they leave, if their draws cannot. -/
lemma Call.Alike.paired {call call' : Call} (h : call.Alike paint call')
    {service service' : Service ρ} (hcatalog : service.builtins.SameIds service'.builtins)
    (hdraw : Paired (World.Alike paint) Eq service.draw service'.draw) :
    Paired (World.Alike paint) RefusedAlike (service.perform call) (service'.perform call') := by
  cases h with
  | setMood owner name eyes tongue =>
    exact .map (World.Alike.setMood hcatalog owner name eyes tongue) fun _ _ _ => True.intro
  | createConversation owner heading heading' =>
    exact World.Alike.logged (World.Alike.create hdraw owner heading heading') _ _ _
  | createLine owner conversation hmood =>
    exact World.Alike.logged (World.Alike.createLine hdraw hcatalog owner conversation hmood) _ _ _
  | plain h =>
    cases call with
    | setMood | createConversation | createLine => cases h
    | deleteMood owner name =>
      exact World.Alike.logged (World.Alike.delete hcatalog owner name) _ _ _
    | deleteConversation owner id =>
      exact World.Alike.logged (.requiring (World.Alike.execute
        ((Rows.deleteConversation_veiled owner id).matching
          (Rows.deleteConversation_veiled owner id)))) _ _ _
    | deleteLine owner conversation id =>
      exact World.Alike.logged (.requiring (World.Alike.execute
        ((Rows.deleteLine_veiled owner conversation id).matching
          (Rows.deleteLine_veiled owner conversation id)))) _ _ _
    | listMoods owner query =>
      exact World.Alike.logged (World.Alike.reading fun _ _ h =>
        h.listMoods hcatalog owner query) _ _ _
    | getMood owner name =>
      exact World.Alike.logged (World.Alike.reading fun _ _ h =>
        h.getMood hcatalog owner name) _ _ _
    | listConversations owner query =>
      exact World.Alike.logged (World.Alike.reading fun _ _ h =>
        h.listConversations owner query) _ _ _
    | getConversation owner id =>
      exact World.Alike.logged (World.Alike.reading fun _ _ h =>
        h.getConversation hcatalog owner id) _ _ _
    | getLine owner conversation id =>
      exact World.Alike.logged (World.Alike.reading fun _ _ h =>
        h.getLine hcatalog owner conversation id) _ _ _

/-! ### Draws -/

/-- The draws ask the source for the same numbers in the same way. At each of them other callers may
act, through calls that differ only in content and draw alike in turn. -/
inductive DrawsAlike (paint : Paint) :
    StateM (World ρ) UInt64 → StateM (World ρ) UInt64 → Prop
  | number (value : UInt64) : DrawsAlike paint (pure value) (pure value)
  | ask {draw draw' : ρ → StateM (World ρ) UInt64} (next : ρ → ρ)
    (rest : ∀ source, DrawsAlike paint (draw source) (draw' source)) :
    DrawsAlike paint (fun world => draw world.source { world with source := next world.source })
      fun world => draw' world.source { world with source := next world.source }
  | meanwhile {service service' : Service ρ} {call call' : Call}
    {draw draw' : StateM (World ρ) UInt64}
    (catalog : service.builtins.SameIds service'.builtins)
    (draws : DrawsAlike paint service.draw service'.draw) (calls : call.Alike paint call')
    (rest : DrawsAlike paint draw draw') :
    DrawsAlike paint (fun world => draw (service.perform call world).2)
      fun world => draw' (service'.perform call' world).2

lemma DrawsAlike.paired {draw draw' : StateM (World ρ) UInt64}
    (h : DrawsAlike paint draw draw') : Paired (World.Alike paint) Eq draw draw' := by
  induction h with
  | number value => exact .answer rfl
  | ask next rest ih =>
    intro world world' halike
    beta_reduce
    rw [halike.source]
    exact ih world'.source ⟨halike.database, halike.log, rfl⟩
  | meanwhile catalog draws calls rest ihdraws ihrest =>
    exact fun world world' halike => ihrest (calls.paired catalog ihdraws halike).2

/-! ### Runs -/

structure Deed (ρ : Type) where
  service : Service ρ
  call : Call

/-- The deeds differ only in content; the built-in moods have the same names. -/
structure Deed.Alike (paint : Paint) (deed deed' : Deed ρ) : Prop where
  builtins : deed.service.builtins.SameIds deed'.service.builtins
  draw : DrawsAlike paint deed.service.draw deed'.service.draw
  call : deed.call.Alike paint deed'.call

/-- What each of the deeds logs, one after the other. -/
def World.logs : World ρ → List (Deed ρ) → List (List Event)
  | _, [] => []
  | world, deed :: deeds =>
    let after := (deed.service.perform deed.call { world with log := [] }).2
    after.log :: after.logs deeds

lemma World.Alike.logs_eq {world world' : World ρ} (h : world.Alike paint world')
    {deeds deeds' : List (Deed ρ)} (hdeeds : List.Forall₂ (Deed.Alike paint) deeds deeds') :
    world.logs deeds = world'.logs deeds' := by
  induction hdeeds generalizing world world' with
  | nil => rfl
  | cons hdeed _ ih =>
    have hfresh : World.Alike paint { world with log := [] } { world' with log := [] } :=
      ⟨h.database, rfl, h.source⟩
    obtain ⟨-, hleft⟩ :=
      hdeed.call.paired hdeed.builtins hdeed.draw.paired hfresh
    exact congrArg₂ List.cons hleft.log (ih hleft)

/-! ### Openings -/

/-- The event without its duration. -/
def Event.untimed (event : Event) : Event :=
  { event with fields := event.fields.filter fun field => field.1 ≠ "duration_ms" }

/-- Where a store is opened. -/
inductive Place where
  | memory
  | file (config : StoreConfig) (site : Site)

def Place.opened (place : Place) (elapsedMs : ℕ) : Opened × List Event :=
  match place with
  | memory => Opening.openMemory elapsedMs
  | file config site =>
    ((Opening.openFile config site elapsedMs).1, (Opening.openFile config site elapsedMs).2.2)

/-- The events of the opening, and if a store was opened, what each of the deeds logs. -/
def Place.logs (place : Place) (elapsedMs : ℕ) (source : ρ) (deeds : List (Deed ρ)) :
    List Event × List (List Event) :=
  match place.opened elapsedMs with
  | (.store db, events) => (events, World.logs ⟨db, [], source⟩ deeds)
  | (_, events) => (events, [])

inductive Site.Alike (paint : Paint) : Site → Site → Prop
  | absent : Alike paint .absent .absent
  | unusable : Alike paint .unusable .unusable
  | database {db db' : Database} (h : db.Alike paint db') :
    Alike paint (.database db) (.database db')

inductive Place.Alike (paint : Paint) : Place → Place → Prop
  | memory : Alike paint .memory .memory
  | file (config : StoreConfig) {site site' : Site} (h : site.Alike paint site') :
    Alike paint (.file config site) (.file config site')

/-- Both openings gave stores that are alike, or ended in the same failure. -/
inductive Opened.Alike (paint : Paint) : Opened → Opened → Prop
  | store {db db' : Database} (h : db.Alike paint db') : Alike paint (.store db) (.store db')
  | failed (error : DbError) : Alike paint (.failed error) (.failed error)
  | crashed (message : String) : Alike paint (.crashed message) (.crashed message)

namespace Database.Alike

variable {db db' : Database} (h : db.Alike paint db')

include h

lemma rows_isSome : db.rows.isSome = db'.rows.isSome := by
  obtain ⟨-, -, -, -, -, hrows⟩ := Database.mk.inj h
  rw [← Option.isSome_map, hrows, Option.isSome_map]

lemma objects : db.objects = db'.objects := by
  obtain ⟨-, htables, -, hindexes, hviews, -⟩ := Database.mk.inj h
  rw [Database.objects, Database.objects, Database.tables, Database.tables, Database.indexes,
    Database.indexes, htables, hindexes, hviews, h.rows_isSome]

lemma migrate : Agree (Database.Alike paint) db.migrate.1 db'.migrate.1 ∧
    db.migrate.2 = db'.migrate.2 := by
  obtain ⟨hversion, htables, hrows, hindexes, hviews, -⟩ := Database.mk.inj h
  rw [Database.migrate, Database.migrate, hversion, h.objects]
  split_ifs
  · exact ⟨.error _, rfl⟩
  · exact ⟨.error _, rfl⟩
  · exact ⟨.ok h, rfl⟩
  · rcases Migration.run db'.objects Migration.script with ⟨_ | _, objects⟩
    · exact ⟨.error _, rfl⟩
    · refine ⟨.ok ?_, rfl⟩
      rw [Database.Alike, Database.veiled, Database.veiled, htables, hrows, hindexes, hviews]
      rfl

lemma finish (mode : Opening.Mode) (elapsedMs elapsedMs' : ℕ) :
    Opened.Alike paint (Opening.finish mode elapsedMs db).1 (Opening.finish mode elapsedMs' db').1 ∧
      (Opening.finish mode elapsedMs db).2.2.map Event.untimed =
        (Opening.finish mode elapsedMs' db').2.2.map Event.untimed := by
  obtain ⟨hagree, hevents⟩ := h.migrate
  rw [Opening.finish, Opening.finish]
  rcases hmigrate : db.migrate with ⟨outcome, events⟩
  rcases hmigrate' : db'.migrate with ⟨outcome', events'⟩
  rw [hmigrate, hmigrate'] at hagree hevents
  obtain rfl : events = events' := hevents
  cases hagree with
  | ok hdb => exact ⟨.store hdb, by rw [List.map_append, List.map_append]; rfl⟩
  | error error => exact ⟨.failed error, by rw [List.map_append, List.map_append]; rfl⟩

end Database.Alike

lemma Site.Alike.reach? {site site' : Site} (h : site.Alike paint site') (config : StoreConfig) :
    Opening.reach? config site = none ∧ Opening.reach? config site' = none ∨
      ∃ db db', Opening.reach? config site = some db ∧ Opening.reach? config site' = some db' ∧
        db.Alike paint db' := by
  rw [Opening.reach?, Opening.reach?]
  split
  · exact .inl ⟨rfl, rfl⟩
  · cases h with
    | absent => exact .inr ⟨.blank, .blank, rfl, rfl, rfl⟩
    | unusable => exact .inl ⟨rfl, rfl⟩
    | database h => exact .inr ⟨_, _, rfl, rfl, h⟩

lemma Place.Alike.opened {place place' : Place} (h : place.Alike paint place')
    (elapsedMs elapsedMs' : ℕ) :
    (place.opened elapsedMs).1.Alike paint (place'.opened elapsedMs').1 ∧
      (place.opened elapsedMs).2.map Event.untimed =
        (place'.opened elapsedMs').2.map Event.untimed := by
  cases h with
  | memory =>
    have hblank : Database.blank.Alike paint .blank := rfl
    obtain ⟨hopened, hevents⟩ := hblank.finish .memory elapsedMs elapsedMs'
    exact ⟨hopened, congrArg (_ :: ·) hevents⟩
  | file config hsite =>
    simp only [Place.opened, Opening.openFile]
    cases Opening.crash? config with
    | some message => exact ⟨.crashed message, rfl⟩
    | none =>
      obtain ⟨hreach, hreach'⟩ | ⟨db, db', hreach, hreach', hdb⟩ := hsite.reach? config
      · rw [hreach, hreach']
        exact ⟨.failed _, rfl⟩
      · rw [hreach, hreach']
        obtain ⟨hopened, hevents⟩ := hdb.finish .file elapsedMs elapsedMs'
        exact ⟨hopened, congrArg (_ :: ·) hevents⟩

/-- **Logs carry no content.** Two runs of the same calls on stores that are opened alike log the
same, but for the durations of the openings. The runs may fill their stores with any headings, and
with any animal, manner and text of lines; the eyes and tongues of the one are painted over in the
other, and its built-in moods may have any. Refusals, taken ids, blocked deletions and internal
faults are among what is logged, and other callers may act at every draw. -/
theorem logs_carry_no_content (paint : Paint) {place place' : Place}
    (hplace : place.Alike paint place') {deeds deeds' : List (Deed ρ)}
    (hdeeds : List.Forall₂ (Deed.Alike paint) deeds deeds') (elapsedMs elapsedMs' : ℕ)
    (source : ρ) :
    let logs := place.logs elapsedMs source deeds
    let logs' := place'.logs elapsedMs' source deeds'
    logs.1.map Event.untimed = logs'.1.map Event.untimed ∧ logs.2 = logs'.2 := by
  have houtcome := hplace.opened elapsedMs elapsedMs'
  revert houtcome
  rw [Place.logs, Place.logs]
  rcases place.opened elapsedMs with ⟨opened, events⟩
  rcases place'.opened elapsedMs' with ⟨opened', events'⟩
  rintro ⟨hopened, hevents⟩
  cases hopened with
  | store hdb =>
    have hworlds : World.Alike paint ⟨_, [], source⟩ ⟨_, [], source⟩ := ⟨hdb, rfl, rfl⟩
    exact ⟨hevents, hworlds.logs_eq hdeeds⟩
  | failed error => exact ⟨hevents, rfl⟩
  | crashed message => exact ⟨hevents, rfl⟩

/-- A mood is written twice, a second conversation finds no free id, and a line keeps the mood from
being deleted. -/
theorem logs_of_two_diaries :
    let paint : Paint :=
      ⟨("~" ++ ·), (· ++ "~"), fun _ _ => String.append_right_inj _ |>.mp,
        fun _ _ => String.append_left_inj _ |>.mp⟩
    let service (eyes : String) : Service Unit := ⟨⟨[.builtin "wired" eyes "  "]⟩, pure 7⟩
    let deeds (wired eyes tongue heading heading' : String) (line : NewLine) : List (Deed Unit) :=
      [.setMood "ann" "Calm" eyes tongue, .setMood "ann" "calm" eyes tongue,
        .setMood "ann" "Wired" eyes tongue, .createConversation "ann" heading,
        .createConversation "ann" heading', .createLine "ann" "cv_7" line,
        .deleteMood "ann" "CALM"].map (Deed.mk (service wired))
    let diary := deeds "OO" "oo" "U " "diary" "drafts" ⟨"cow", false, "calm", "moo"⟩
    let other := deeds "00" "~oo" "U ~" "" "secrets" ⟨"owl", true, "calm", ""⟩
    List.Forall₂ (Deed.Alike paint) diary other ∧
      (Place.memory.logs 3 () diary).1.map Event.untimed =
        (Place.memory.logs 5 () other).1.map Event.untimed ∧
      (Place.memory.logs 5 () other).2 =
        [[Service.moodWritten .created], [Service.moodWritten .unchanged],
          [Service.refusal "set_mood" (.protectedEntity "Wired")], [],
          (List.range 16).map (fun k => Ids.collision "cv_" (k + 1)) ++
            [Ids.exhaustion "cv_" 16,
              Service.refusal "create_conversation" (.internal (.idSpaceExhausted "cv_" 16))],
          [], [Guard.blocked "lines" 1,
            Service.refusal "delete_mood" (.hasDependents "CALM" "lines" 1)]] := by
  intro paint service deeds diary other
  have same {call call' : Call} (h : call.Alike paint call') :
      Deed.Alike paint ⟨service "OO", call⟩ ⟨service "00", call'⟩ := ⟨rfl, .number 7, h⟩
  have halike : List.Forall₂ (Deed.Alike paint) diary other :=
    .cons (same (.setMood ..)) <| .cons (same (.setMood ..)) <| .cons (same (.setMood ..)) <|
      .cons (same (.createConversation ..)) <| .cons (same (.createConversation ..)) <|
        .cons (same (.createLine _ _ rfl)) <| .cons (same (.plain rfl)) .nil
  obtain ⟨hopening, hdeeds⟩ := logs_carry_no_content paint .memory halike 3 5 ()
  exact ⟨halike, hopening, hdeeds.symm.trans (by decide +kernel)⟩

end MoodStore
