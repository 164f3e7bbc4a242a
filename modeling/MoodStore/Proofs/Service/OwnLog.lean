import MoodStore.Proofs.Service.Atomicity
import MoodStore.Proofs.Service.Paired

/-!
What a call itself logs.

Nothing that an operation answers or writes depends on the log. So a call does the same when the
events of other callers are kept out of its log, and what the log then holds is what the call itself
has logged. There is an error among it just when the call answers an internal fault.
-/

namespace MoodStore

variable {ρ α β : Type}

/-- The others, their events kept apart. -/
def Others.quiet (others : Others ρ) : Others ρ := fun shared =>
  { others shared with events := [] }

/-! ### Nothing depends on the log -/

/-- The worlds are the same but for the log. -/
def SameShared (world world' : World ρ) : Prop := world.shared = world'.shared

/-- The actions do the same, whatever the log holds. -/
def SameButLog (f g : StateM (World ρ) α) : Prop := Paired SameShared Eq f g

namespace SameButLog

lemma emit (event : Event) :
    SameButLog (World.emit event : StateM (World ρ) Unit) (World.emit event) :=
  fun _ _ hshared => ⟨rfl, hshared⟩

lemma execute (statement : Rows → Except Failure α × Rows) :
    Paired SameShared (Agree Eq)
      (World.execute statement : StateM (World ρ) (Except Failure α))
      (World.execute statement) := by
  intro world world' hshared
  obtain ⟨hdatabase, hsource⟩ := Prod.mk.inj hshared
  simp only [World.execute, SameShared, World.shared, hdatabase, hsource, and_true]
  exact .refl _

lemma draw (others : Others ρ) : SameButLog others.draw others.quiet.draw := by
  intro world world' hshared
  have hsame : others world.shared = others world'.shared := congrArg others hshared
  have hleft : (others world.shared).left = (others world'.shared).left :=
    congrArg Interlude.left hsame
  exact ⟨congrArg (·.value) hsame, hleft⟩

lemma reading (query : Database → Except Error α) :
    Paired SameShared (Agree Eq) (Operation.reading query : Operation ρ α)
      (Operation.reading query) := by
  intro world world' hshared
  have hdatabase : world.database = world'.database := congrArg Prod.fst hshared
  rw [Operation.reading_apply, Operation.reading_apply, hdatabase]
  exact ⟨.refl _, hshared⟩

/-! Calls -/

lemma set (builtins : Catalog Mood) (owner name eyes tongue : String) :
    Paired SameShared (Agree Eq)
      (Moods.set builtins owner name eyes tongue : Operation ρ MoodWrite)
      (Moods.set builtins owner name eyes tongue) := by
  intro world world' hshared
  rw [Moods.set_apply, Moods.set_apply]
  split
  · exact ⟨.error _, hshared⟩
  · exact Paired.executing (execute _) hshared

lemma delete (builtins : Catalog Mood) (owner name : String) :
    Paired SameShared (Agree Eq) (Moods.delete builtins owner name : Operation ρ Unit)
      (Moods.delete builtins owner name) := by
  intro world world' hshared
  rw [Moods.delete_apply, Moods.delete_apply]
  split
  · exact ⟨.error _, hshared⟩
  · exact Paired.deleteOrReport emit (execute _) (reading _) _ _ hshared

lemma create (others : Others ρ) (owner heading : String) :
    Paired SameShared (Agree Eq) (Conversations.create others.draw owner heading)
      (Conversations.create others.quiet.draw owner heading) :=
  .create emit (draw others) (fun _ => execute _) fun _ _ hrow => congrArg _ hrow

lemma createLine (others : Others ρ) (builtins : Catalog Mood) (owner conversation : String)
    (new : NewLine) :
    Paired SameShared (Agree Eq)
      (Conversations.createLine builtins others.draw owner conversation new)
      (Conversations.createLine builtins others.quiet.draw owner conversation new) := by
  refine .andThen (reading _) fun meaning meaning' hmeaning => ?_
  subst hmeaning
  cases meaning.mood? with
  | none => exact .answer (.error _)
  | some mood =>
    refine .andThen (reading _) fun home? home?' hhome => ?_
    subst hhome
    cases home? with
    | none => exact .answer (.error _)
    | some home =>
      exact .insertLine emit (draw others) (fun _ => execute _)
        ((reading _).weaken fun _ _ hagain => congrArg _ hagain) rfl fun _ _ hrow => by rw [hrow]

lemma perform (others : Others ρ) (builtins : Catalog Mood) (call : Call) :
    SameButLog ((Service.mk builtins others.draw).perform call)
      ((Service.mk builtins others.quiet.draw).perform call) := by
  refine Paired.of_agree ?_
  cases call with
  | setMood owner name eyes tongue =>
    refine .map (.andThen (.logged emit (set builtins owner name eyes tongue) _)
      fun write write' hwrite => ?_) fun _ _ hwrite => congrArg _ hwrite
    subst hwrite
    exact .andThen (.lift (emit _)) fun _ _ _ => .answer (.refl _)
  | deleteMood owner name =>
    exact .map (.logged emit (delete builtins owner name) _) fun _ _ _ => rfl
  | createConversation owner heading =>
    exact .map (.logged emit (create others owner heading) _) fun _ _ hnew => congrArg _ hnew
  | createLine owner conversation new =>
    exact .map (.logged emit (createLine others builtins owner conversation new) _)
      fun _ _ hnew => congrArg _ hnew
  | deleteConversation | deleteLine =>
    exact .map (.logged emit (.requiring (execute _)) _) fun _ _ _ => rfl
  | listMoods | getMood | listConversations | getConversation | getLine =>
    exact .map (.logged emit (reading _) _) fun _ _ hanswer => congrArg _ hanswer

end SameButLog

/-! ### What a call logs -/

def IsFault (answer : Except Error α) : Prop := ∃ fault, answer = .error (.internal fault)

lemma map_eq_error_iff {ε : Type} {answer : Except ε α} {view : α → β} {error : ε} :
    answer.map view = .error error ↔ answer = .error error := by
  cases answer with
  | error refused => simp only [Except.map, Except.error.injEq]
  | ok value => exact iff_of_false (by rintro ⟨⟩) (by rintro ⟨⟩)

def HasError (events : List Event) : Prop := ∃ event ∈ events, event.level = .error

@[simp] lemma not_hasError_nil : ¬HasError [] := nofun

@[simp] lemma hasError_append {events events' : List Event} :
    HasError (events ++ events') ↔ HasError events ∨ HasError events' := by
  simp only [HasError, List.mem_append, or_and_right, exists_or]

@[simp] lemma hasError_singleton {event : Event} : HasError [event] ↔ event.level = .error := by
  simp [HasError]

/-- The action logs an error only if it has such an outcome. -/
def LogsErrorOnly (such : α → Prop) (f : StateM (World ρ) α) : Prop :=
  ∀ world, ∃ events, (f world).2.log = world.log ++ events ∧
    (HasError events → such (f world).1)

/-- The operation logs an error just when it answers an internal fault. -/
def Reports (operation : Operation ρ α) : Prop :=
  ∀ world, ∃ events, (operation world).2.log = world.log ++ events ∧
    (HasError events ↔ IsFault (operation world).1)

lemma exists_events_of_eq {log log' : List Event} (h : log' = log) (such : Prop) :
    ∃ events, log' = log ++ events ∧ (HasError events → such) :=
  ⟨[], by rw [h, List.append_nil], fun herror => absurd herror not_hasError_nil⟩

namespace LogsErrorOnly

lemma of_silent {such : α → Prop} {f : StateM (World ρ) α}
    (h : ∀ world, (f world).2.log = world.log) : LogsErrorOnly such f := fun world =>
  exists_events_of_eq (h world) _

lemma transfer {such : α → Prop} {such' : β → Prop} {f : StateM (World ρ) α}
    {g : StateM (World ρ) β} (h : LogsErrorOnly such f)
    (hlog : ∀ world, (g world).2.log = (f world).2.log)
    (hsuch : ∀ world, such (f world).1 → such' (g world).1) : LogsErrorOnly such' g := by
  intro world
  obtain ⟨events, hevents, herror⟩ := h world
  exact ⟨events, (hlog world).trans hevents, fun h => hsuch world (herror h)⟩

lemma insertFrom {draw : StateM (World ρ) UInt64} (hdraw : ∀ world, (draw world).2.log = world.log)
    (tag : String) (statement : String → Rows → Except Failure α × Rows) (left attempt : ℕ) :
    LogsErrorOnly (· = .error (.exhausted tag Ids.maxAttempts))
      (Ids.insertFrom tag draw (fun id => World.execute (statement id)) World.emit attempt
        left) := by
  induction left generalizing attempt with
  | zero => exact fun world => ⟨_, rfl, fun _ => rfl⟩
  | succ left ih =>
    intro world
    rw [Ids.insertFrom_succ]
    have hlog := hdraw world
    revert hlog
    rcases draw world with ⟨value, drawn⟩
    intro hlog
    simp only [World.execute]
    rcases drawn.database.write (statement (publicId tag value)) with ⟨failure | row, database⟩
    · simp only
      split
      · -- a collision is logged as a warning, and the other attempts follow
        obtain ⟨events, hevents, herror⟩ := ih (attempt + 1)
          (World.emit (Ids.collision tag attempt) { drawn with database }).2
        refine ⟨Ids.collision tag attempt :: events, ?_, fun h => herror ?_⟩
        · rw [hevents]
          change drawn.log ++ [Ids.collision tag attempt] ++ events = _
          rw [hlog, List.append_assoc, List.singleton_append]
        · rw [← List.singleton_append, hasError_append, hasError_singleton] at h
          rcases h with h | h
          · cases h
          · exact h
      · exact exists_events_of_eq hlog _
    · exact exists_events_of_eq hlog _

end LogsErrorOnly

namespace Reports

lemma refusal_level {name : String} {error : Error} :
    (Service.refusal name error).level = .error ↔ ∃ fault, error = .internal fault := by
  cases error <;> simp [Service.refusal, Error.isInternal, Event.of]

lemma logged {operation : Operation ρ α} (h : LogsErrorOnly IsFault operation) (name : String) :
    Reports (Service.logged name operation) := by
  intro world
  obtain ⟨events, hevents, herror⟩ := h world
  rw [Service.logged_apply]
  rcases houtcome : operation world with ⟨error | answer, left⟩
  · rw [houtcome] at hevents herror
    refine ⟨events ++ [Service.refusal name error], ?_, ?_⟩
    · simp only at hevents ⊢
      rw [hevents, List.append_assoc]
    · rw [hasError_append, hasError_singleton, refusal_level]
      simp only [IsFault, Except.error.injEq] at herror ⊢
      exact or_iff_right_of_imp herror
  · rw [houtcome] at hevents herror
    refine ⟨events, hevents, iff_of_false (fun h => ?_) nofun⟩
    obtain ⟨_, hfault⟩ := herror h
    cases hfault

lemma map {operation : Operation ρ α} (h : Reports operation) (view : α → β) :
    Reports (view <$> operation : Operation ρ β) := by
  intro world
  obtain ⟨events, hevents, herror⟩ := h world
  rw [Operation.map_apply]
  exact ⟨events, hevents, herror.trans (exists_congr fun _ => map_eq_error_iff.symm)⟩

lemma followed {operation : Operation ρ α} (h : Reports operation) {event : α → Event}
    (hevent : ∀ answer, (event answer).level ≠ .error) :
    Reports (do
      let answer ← operation
      Operation.lift (World.emit (event answer))
      return answer : Operation ρ α) := by
  intro world
  obtain ⟨events, hevents, herror⟩ := h world
  rw [Operation.bind_apply]
  rcases houtcome : operation world with ⟨error | answer, left⟩
  · rw [houtcome] at hevents herror
    exact ⟨events, hevents, herror⟩
  · rw [houtcome] at hevents herror
    refine ⟨events ++ [event answer], ?_, ?_⟩
    · change left.log ++ [event answer] = _
      simp only at hevents
      rw [hevents, List.append_assoc]
    · rw [hasError_append, hasError_singleton, or_iff_left (hevent answer), herror]
      exact iff_of_false nofun nofun

/-! Calls -/

lemma set (builtins : Catalog Mood) (owner name eyes tongue : String) :
    LogsErrorOnly IsFault
      (Moods.set builtins owner name eyes tongue : Operation ρ MoodWrite) := by
  refine .of_silent fun world => ?_
  rw [Moods.set_apply]
  split
  · rfl
  · rw [Operation.executing_apply]

lemma delete (builtins : Catalog Mood) (owner name : String) :
    LogsErrorOnly IsFault (Moods.delete builtins owner name : Operation ρ Unit) := by
  intro world
  rw [Moods.delete_apply]
  split
  · exact exists_events_of_eq rfl _
  · rw [Guard.deleteOrReport_apply]
    simp only [World.execute, Operation.reading_apply]
    rcases world.database.write _ with ⟨failure | _ | count, database⟩
    · simp only
      split
      · rcases database.rowsOrError with _ | rows
        · exact exists_events_of_eq rfl _
        · exact ⟨[_], rfl, fun h => by cases hasError_singleton.mp h⟩
      · exact exists_events_of_eq rfl _
    · exact exists_events_of_eq rfl _
    · exact exists_events_of_eq rfl _

lemma requiring (statement : Rows → Except Failure ℕ × Rows) :
    LogsErrorOnly IsFault (do
      let deleted ← Operation.executing statement
      if deleted = 0 then throw .notFound : Operation ρ Unit) := by
  refine .of_silent fun world => ?_
  rw [Conversations.requiring_apply, Operation.executing_apply]

section Drawing

variable {draw : StateM (World ρ) UInt64} (hdraw : ∀ world, (draw world).2.log = world.log)

include hdraw

lemma create (owner heading : String) :
    LogsErrorOnly IsFault (Conversations.create draw owner heading) := by
  refine (LogsErrorOnly.insertFrom hdraw conversationTag
    (fun id rows => rows.insertConversation id owner heading) Ids.maxAttempts 1).transfer
    (fun world => congrArg World.log (Conversations.create_snd draw owner heading world))
    fun world hexhausted => ?_
  rw [Conversations.create_apply, Ids.insertUnique]
  rcases hinsert : Ids.insertFrom conversationTag draw _ World.emit 1 Ids.maxAttempts world with
    ⟨answer, left⟩
  rw [hinsert] at hexhausted
  obtain rfl := hexhausted
  exact ⟨_, rfl⟩

lemma insertLine (owner : String) (home : ConversationRow) (row? : Option MoodRow) (mood : Mood)
    (new : NewLine) :
    LogsErrorOnly IsFault (Conversations.insertLine draw owner home row? mood new) := by
  refine (LogsErrorOnly.insertFrom hdraw lineTag
    (fun id rows => rows.insertLine (Conversations.newRow home row? mood.name id new))
    Ids.maxAttempts 1).transfer (fun world =>
      congrArg World.log (Conversations.insertLine_snd draw owner home row? mood new world))
    fun world hexhausted => ?_
  rw [Conversations.insertLine_apply, Ids.insertUnique]
  rcases hinsert : Ids.insertFrom lineTag draw _ World.emit 1 Ids.maxAttempts world with
    ⟨answer, left⟩
  rw [hinsert] at hexhausted
  obtain rfl := hexhausted
  exact ⟨_, rfl⟩

lemma createLine (builtins : Catalog Mood) (owner conversation : String) (new : NewLine) :
    LogsErrorOnly IsFault (Conversations.createLine builtins draw owner conversation new) := by
  intro world
  rw [Conversations.createLine_apply]
  cases Moods.meaning builtins owner new.mood world.database with
  | error => exact exists_events_of_eq rfl _
  | ok meaning =>
    simp only
    cases meaning.mood? with
    | none => exact exists_events_of_eq rfl _
    | some mood =>
      rcases Conversations.find? owner conversation world.database with error | _ | home
      · exact exists_events_of_eq rfl _
      · exact exists_events_of_eq rfl _
      · exact insertLine hdraw owner home meaning.row? mood new world

end Drawing

/-- Every call logs an error just when it answers an internal fault. -/
lemma perform {service : Service ρ} (hdraw : ∀ world, (service.draw world).2.log = world.log)
    (call : Call) : Reports (service.perform call) := by
  cases call with
  | setMood owner name eyes tongue =>
    have hevent : ∀ written : MoodWrite, (Service.moodWritten written.outcome).level ≠ .error :=
      fun _ => nofun
    exact map (followed (logged (set service.builtins owner name eyes tongue) _) hevent) _
  | deleteMood owner name => exact map (logged (delete service.builtins owner name) _) _
  | createConversation owner heading => exact map (logged (create hdraw owner heading) _) _
  | createLine owner conversation new =>
    exact map (logged (createLine hdraw service.builtins owner conversation new) _) _
  | deleteConversation | deleteLine => exact map (logged (requiring _) _) _
  | listMoods | getMood | listConversations | getConversation | getLine =>
    exact map (logged (.of_silent fun _ => rfl) _) _

end Reports

lemma Others.quiet_log (others : Others ρ) (world : World ρ) :
    (others.quiet.draw world).2.log = world.log :=
  List.append_nil _

end MoodStore
