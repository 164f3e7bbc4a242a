import Mathlib.Tactic.Common
import MoodStore.Service.Calls

/-!
What the operations of the service answer, and what they leave of the world.

Operations are sequences of reads, statements and draws. Logging changes neither the answer nor the
tables; each operation but the two that draw ids is one read or one statement.
-/

namespace MoodStore

open Listing (Query)

variable {ρ α β σ : Type}

/-! ### Sequences of actions -/

namespace Operation

lemma bind_apply (operation : Operation ρ α) (next : α → Operation ρ β) (world : World ρ) :
    (operation >>= next) world =
      match operation world with
      | (.ok answer, world) => next answer world
      | (.error error, world) => (.error error, world) := by
  simp only [bind, ExceptT.bind, ExceptT.mk, StateT.bind]
  rcases operation world with ⟨_ | _, world⟩ <;> rfl

@[simp] lemma map_apply (f : α → β) (operation : Operation ρ α) (world : World ρ) :
    (f <$> operation) world = ((operation world).1.map f, (operation world).2) := by
  simp only [Functor.map, ExceptT.map, ExceptT.mk, bind, StateT.bind]
  rcases operation world with ⟨_ | _, world⟩ <;> rfl

@[simp] lemma pure_apply (answer : α) (world : World ρ) :
    (pure answer : Operation ρ α) world = (.ok answer, world) := rfl

@[simp] lemma throw_apply (error : Error) (world : World ρ) :
    (throw error : Operation ρ α) world = (.error error, world) := rfl

@[simp] lemma reading_apply (query : Database → Except Error α) (world : World ρ) :
    reading query world = (query world.database, world) := rfl

@[simp] lemma lift_apply (action : StateM (World ρ) α) (world : World ρ) :
    lift action world = (.ok (action world).1, (action world).2) := rfl

@[simp] lemma executing_apply (statement : Rows → Except Failure α × Rows) (world : World ρ) :
    executing statement world =
      ((world.database.write statement).1.mapError .ofFailure,
        { world with database := (world.database.write statement).2 }) := by
  simp only [executing, bind_apply, lift_apply, World.execute]
  rcases world.database.write statement with ⟨_ | _, database⟩ <;> rfl

end Operation

/-! ### Logging -/

namespace Service

lemma logged_apply (name : String) (operation : Operation ρ α) (world : World ρ) :
    logged name operation world =
      match operation world with
      | (.ok answer, world) => (.ok answer, world)
      | (.error error, world) =>
        (.error error, { world with log := world.log ++ [refusal name error] }) := by
  simp only [logged, tryCatch, tryCatchThe, MonadExceptOf.tryCatch, ExceptT.tryCatch, ExceptT.mk,
    bind, StateT.bind]
  rcases operation world with ⟨_ | _, world⟩ <;> rfl

@[simp] lemma logged_answer (name : String) (operation : Operation ρ α) (world : World ρ) :
    (logged name operation world).1 = (operation world).1 := by
  rw [logged_apply]
  rcases operation world with ⟨_ | _, world⟩ <;> rfl

@[simp] lemma logged_database (name : String) (operation : Operation ρ α) (world : World ρ) :
    (logged name operation world).2.database = (operation world).2.database := by
  rw [logged_apply]
  rcases operation world with ⟨_ | _, world⟩ <;> rfl

@[simp] lemma logged_source (name : String) (operation : Operation ρ α) (world : World ρ) :
    (logged name operation world).2.source = (operation world).2.source := by
  rw [logged_apply]
  rcases operation world with ⟨_ | _, world⟩ <;> rfl

end Service

/-! ### Inserting under drawn ids -/

namespace Ids

variable {tag : String} {draw : StateM σ UInt64} {insert : String → StateM σ (Except Failure α)}
  {emit : Event → StateM σ Unit}

lemma insertFrom_succ (attempt left : ℕ) (s : σ) :
    insertFrom tag draw insert emit attempt (left + 1) s =
      let (value, drawn) := draw s
      match insert (publicId tag value) drawn with
      | (.ok row, inserted) => (.ok row, inserted)
      | (.error failure, inserted) =>
        if (Fault.classify failure).isUnique then
          insertFrom tag draw insert emit (attempt + 1) left
            (emit (collision tag attempt) inserted).2
        else (.error (.fault (.classify failure)), inserted) := by
  simp only [insertFrom, bind, StateT.bind]
  rcases draw s with ⟨value, drawn⟩
  rcases hinsert : insert (publicId tag value) drawn with ⟨_ | _, inserted⟩
  · simp only [hinsert]
    split <;> rfl
  · simp only [hinsert]
    rfl

/-- What draws, inserts under the ids of draws and events all keep, the whole insertion keeps. -/
lemma insertFrom_keeps {P : σ → Prop} (hdraw : ∀ s, P s → P (draw s).2)
    (hinsert : ∀ value s, P s → P (insert (publicId tag value) s).2)
    (hemit : ∀ event s, P s → P (emit event s).2)
    (left attempt : ℕ) (s : σ) (hs : P s) :
    P (insertFrom tag draw insert emit attempt left s).2 := by
  induction left generalizing attempt s with
  | zero => exact hemit _ s hs
  | succ left ih =>
    rw [insertFrom_succ]
    have hdrawn := hdraw s hs
    rcases hd : draw s with ⟨value, drawn⟩
    rw [hd] at hdrawn
    have hinserted := hinsert value drawn hdrawn
    rcases hi : insert (publicId tag value) drawn with ⟨failure | row, inserted⟩
    · rw [hi] at hinserted
      simp only [hi]
      split
      · exact ih _ _ (hemit _ _ hinserted)
      · exact hinserted
    · rw [hi] at hinserted
      simp only [hi]
      exact hinserted

end Ids

/-! ### Operations that write -/

namespace Guard

lemma deleteOrReport_apply (entity dependents : String) (delete : StateM σ (Except Failure ℕ))
    (count : StateM σ (Except Error ℕ)) (emit : Event → StateM σ Unit) (s : σ) :
    deleteOrReport entity dependents delete count emit s =
      match delete s with
      | (.ok 0, deleted) => (.error .notFound, deleted)
      | (.ok (_ + 1), deleted) => (.ok (), deleted)
      | (.error failure, deleted) =>
        if (Fault.classify failure).isForeignKey then
          match count deleted with
          | (.error error, counted) => (.error error, counted)
          | (.ok n, counted) =>
            (.error (.hasDependents entity dependents n), (emit (blocked dependents n) counted).2)
        else (.error (Fault.classify failure).toError, deleted) := by
  simp only [deleteOrReport, bind, StateT.bind]
  rcases delete s with ⟨failure | _ | n, deleted⟩
  · simp only
    split
    · simp only [StateT.bind]
      rcases count deleted with ⟨error | n, counted⟩ <;> rfl
    · rfl
  · rfl
  · rfl

end Guard

namespace Moods

lemma unreserved_apply (builtins : Catalog Mood) (name : String) (world : World ρ) :
    unreserved builtins name world =
      if builtins.contains name then (.error (.protectedEntity name), world)
      else (.ok (), world) := by
  unfold unreserved
  split <;> rfl

lemma set_apply (builtins : Catalog Mood) (owner name eyes tongue : String) (world : World ρ) :
    set builtins owner name eyes tongue world =
      if builtins.contains name then (.error (.protectedEntity name), world)
      else Operation.executing (fun rows =>
        (.ok (rows.writeMood owner name eyes tongue).1,
          (rows.writeMood owner name eyes tongue).2)) world := by
  unfold set
  rw [Operation.bind_apply, unreserved_apply]
  cases builtins.contains name with
  | true => rfl
  | false =>
    -- the stored name of an outcome is read back as that outcome
    simp only [Bool.false_eq_true, if_false, Operation.bind_apply, Operation.executing_apply,
      Database.write]
    cases world.database.rows with
    | none => rfl
    | some rows => simp [Except.mapError]

lemma delete_apply (builtins : Catalog Mood) (owner name : String) (world : World ρ) :
    delete builtins owner name world =
      if builtins.contains name then (.error (.protectedEntity name), world)
      else Guard.deleteOrReport name "lines"
        (World.execute fun rows => rows.deleteMood owner (foldCase name))
        (Operation.reading fun db =>
          do return (← db.rowsOrError).countLinesUsing owner (foldCase name))
        World.emit world := by
  unfold delete
  rw [Operation.bind_apply, unreserved_apply]
  cases builtins.contains name <;> rfl

@[simp] lemma set_database (builtins : Catalog Mood) (owner name eyes tongue : String)
    (world : World ρ) :
    (set builtins owner name eyes tongue world).2.database =
      if builtins.contains name then world.database
      else (world.database.write fun rows =>
        ((.ok (rows.writeMood owner name eyes tongue).1 : Except Failure MoodWrite),
          (rows.writeMood owner name eyes tongue).2)).2 := by
  rw [set_apply]
  cases builtins.contains name <;> simp

@[simp] lemma delete_database (builtins : Catalog Mood) (owner name : String)
    (world : World ρ) :
    (delete builtins owner name world).2.database =
      if builtins.contains name then world.database
      else (world.database.write fun rows => rows.deleteMood owner (foldCase name)).2 := by
  rw [delete_apply]
  cases builtins.contains name with
  | true => rfl
  | false =>
    rw [Guard.deleteOrReport_apply]
    simp only [World.execute, Operation.reading_apply, Bool.false_eq_true, if_false]
    rcases world.database.write fun rows => rows.deleteMood owner (foldCase name) with
      ⟨failure | _ | n, database⟩
    · simp only
      split
      · rcases database.rowsOrError with _ | _ <;> rfl
      · rfl
    · rfl
    · rfl

end Moods

namespace Conversations

lemma requiring_apply (statement : Rows → Except Failure ℕ × Rows) (world : World ρ) :
    (do
      let deleted ← Operation.executing statement
      if deleted = 0 then throw .notFound : Operation ρ Unit) world =
      ((Operation.executing statement world).1.bind fun deleted =>
          if deleted = 0 then .error .notFound else .ok (),
        (Operation.executing statement world).2) := by
  rw [Operation.bind_apply]
  rcases Operation.executing statement world with ⟨_ | deleted, world⟩
  · rfl
  · by_cases h : deleted = 0 <;> simp [h, Except.bind]

lemma delete_apply (owner publicId : String) (world : World ρ) :
    delete owner publicId world =
      ((Operation.executing (fun rows => (.ok (rows.deleteConversation owner publicId).1,
          (rows.deleteConversation owner publicId).2)) world).1.bind fun deleted =>
          if deleted = 0 then .error .notFound else .ok (),
        (Operation.executing (fun rows =>
          ((.ok (rows.deleteConversation owner publicId).1 : Except Failure ℕ),
            (rows.deleteConversation owner publicId).2)) world).2) :=
  requiring_apply _ world

lemma deleteLine_apply (owner conversation publicId : String) (world : World ρ) :
    deleteLine owner conversation publicId world =
      ((Operation.executing (fun rows => (.ok (rows.deleteLine owner conversation publicId).1,
          (rows.deleteLine owner conversation publicId).2)) world).1.bind fun deleted =>
          if deleted = 0 then .error .notFound else .ok (),
        (Operation.executing (fun rows =>
          ((.ok (rows.deleteLine owner conversation publicId).1 : Except Failure ℕ),
            (rows.deleteLine owner conversation publicId).2)) world).2) :=
  requiring_apply _ world

lemma create_apply (draw : StateM (World ρ) UInt64) (owner heading : String) (world : World ρ) :
    create draw owner heading world =
      match Ids.insertUnique conversationTag draw
        (fun id => World.execute fun rows => rows.insertConversation id owner heading) World.emit
        world with
      | (.ok row, world) => (.ok row.toConversation, world)
      | (.error error, world) => (.error error.toError, world) := by
  unfold create
  rw [Operation.bind_apply, Operation.lift_apply]
  rcases Ids.insertUnique conversationTag draw _ World.emit world with ⟨_ | _, world⟩ <;> rfl

lemma create_snd (draw : StateM (World ρ) UInt64) (owner heading : String) (world : World ρ) :
    (create draw owner heading world).2 = (Ids.insertUnique conversationTag draw
      (fun id => World.execute fun rows => rows.insertConversation id owner heading) World.emit
      world).2 := by
  rw [create_apply]
  split <;> simp only [*]

lemma insertLine_apply (draw : StateM (World ρ) UInt64) (owner : String)
    (conversation : ConversationRow) (row? : Option MoodRow) (mood : Mood) (line : NewLine)
    (world : World ρ) :
    insertLine draw owner conversation row? mood line world =
      match Ids.insertUnique lineTag draw
        (fun id => World.execute fun rows =>
          rows.insertLine (newRow conversation row? mood.name id line)) World.emit world with
      | (.ok row, world) =>
        (.ok ⟨row.publicId, line.animal, line.think, line.text, mood⟩, world)
      | (.error (.fault (.foreignKeyViolation _)), world) =>
        ((find? owner conversation.publicId world.database).bind fun found =>
          .error (if found.isNone then .notFound else unknownMood line.mood), world)
      | (.error error, world) => (.error error.toError, world) := by
  unfold insertLine
  rw [Operation.bind_apply, Operation.lift_apply]
  rcases Ids.insertUnique lineTag draw _ World.emit world with ⟨error | row, world⟩
  · rcases error with _ | (_ | _ | _)
    · rfl
    · rfl
    · simp only [Operation.bind_apply, Operation.reading_apply]
      rcases find? owner conversation.publicId world.database with _ | (_ | _) <;> rfl
    · rfl
  · rfl

lemma insertLine_snd (draw : StateM (World ρ) UInt64) (owner : String)
    (conversation : ConversationRow) (row? : Option MoodRow) (mood : Mood) (line : NewLine)
    (world : World ρ) :
    (insertLine draw owner conversation row? mood line world).2 = (Ids.insertUnique lineTag draw
      (fun id => World.execute fun rows =>
        rows.insertLine (newRow conversation row? mood.name id line)) World.emit world).2 := by
  rw [insertLine_apply]
  split <;> simp only [*]

lemma createLine_apply (builtins : Catalog Mood) (draw : StateM (World ρ) UInt64)
    (owner conversation : String) (line : NewLine) (world : World ρ) :
    createLine builtins draw owner conversation line world =
      match Moods.meaning builtins owner line.mood world.database with
      | .error error => (.error error, world)
      | .ok meaning =>
        match meaning.mood? with
        | none => (.error (unknownMood line.mood), world)
        | some mood =>
          match find? owner conversation world.database with
          | .error error => (.error error, world)
          | .ok none => (.error .notFound, world)
          | .ok (some row) => insertLine draw owner row meaning.row? mood line world := by
  unfold createLine
  rw [Operation.bind_apply, Operation.reading_apply]
  rcases Moods.meaning builtins owner line.mood world.database with _ | meaning
  · rfl
  · simp only
    cases meaning.mood? with
    | none => rfl
    | some mood =>
      simp only [Operation.bind_apply, Operation.reading_apply]
      rcases find? owner conversation world.database with _ | (_ | _) <;> rfl

end Conversations

namespace Service

lemma setMood_apply (service : Service ρ) (owner name eyes tongue : String) (world : World ρ) :
    ∃ log, service.setMood owner name eyes tongue world =
      ((Moods.set service.builtins owner name eyes tongue world).1,
        { (Moods.set service.builtins owner name eyes tongue world).2 with log }) := by
  unfold setMood
  rw [Operation.bind_apply, logged_apply]
  rcases Moods.set service.builtins owner name eyes tongue world with ⟨_ | written, after⟩
  · exact ⟨_, rfl⟩
  · exact ⟨_, rfl⟩

end Service

/-! ### What a call leaves of the database -/

/-- The database with its tables changed, if it has them. -/
def Database.withRows (db : Database) (change : Rows → Rows) : Database :=
  { db with rows := db.rows.map change }

lemma Database.write_snd (db : Database) (statement : Rows → Except Failure α × Rows) :
    (db.write statement).2 = db.withRows fun rows => (statement rows).2 := by
  obtain ⟨version, otherTables, otherRows, otherIndexes, views, _ | rows⟩ := db <;> rfl

lemma Database.withRows_id (db : Database) : db.withRows id = db := by
  obtain ⟨version, otherTables, otherRows, otherIndexes, views, _ | rows⟩ := db <;> rfl

/-- What a call does to the tables that draws no id. -/
def Call.effect (builtins : Catalog Mood) : Call → Rows → Rows
  | .setMood owner name eyes tongue => fun rows =>
    if builtins.contains name then rows else (rows.writeMood owner name eyes tongue).2
  | .deleteMood owner name => fun rows =>
    if builtins.contains name then rows else (rows.deleteMood owner (foldCase name)).2
  | .deleteConversation owner id => fun rows => (rows.deleteConversation owner id).2
  | .deleteLine owner conversation id => fun rows => (rows.deleteLine owner conversation id).2
  | _ => id

/-- A call creates something under a drawn id, or it has its effect on the tables. -/
lemma Service.perform_database (service : Service ρ) (call : Call) (world : World ρ) :
    (∃ owner heading, (service.perform call world).2.database =
      (Conversations.create service.draw owner heading world).2.database) ∨
    (∃ owner conversation line, (service.perform call world).2.database =
      (Conversations.createLine service.builtins service.draw owner conversation line
        world).2.database) ∨
    (service.perform call world).2.database =
      world.database.withRows (call.effect service.builtins) := by
  cases call with
  | createConversation owner heading =>
    exact .inl ⟨owner, heading, by simp [perform, createConversation]⟩
  | createLine owner conversation line =>
    exact .inr (.inl ⟨owner, conversation, line, by simp [perform, createLine]⟩)
  | setMood owner name eyes tongue =>
    obtain ⟨log, hset⟩ := service.setMood_apply owner name eyes tongue world
    refine .inr (.inr ?_)
    simp only [perform, Operation.map_apply, hset, Moods.set_database, Call.effect]
    cases service.builtins.contains name with
    | true => exact world.database.withRows_id.symm
    | false => exact Database.write_snd _ _
  | deleteMood owner name =>
    refine .inr (.inr ?_)
    simp only [perform, deleteMood, Operation.map_apply, logged_database, Moods.delete_database,
      Call.effect]
    cases service.builtins.contains name with
    | true => exact world.database.withRows_id.symm
    | false => exact Database.write_snd _ _
  | deleteConversation owner id =>
    refine .inr (.inr ?_)
    simp only [perform, deleteConversation, Operation.map_apply, logged_database,
      Conversations.delete_apply, Operation.executing_apply]
    exact Database.write_snd _ _
  | deleteLine owner conversation id =>
    refine .inr (.inr ?_)
    simp only [perform, deleteLine, Operation.map_apply, logged_database,
      Conversations.deleteLine_apply, Operation.executing_apply]
    exact Database.write_snd _ _
  | listMoods | getMood | listConversations | getConversation | getLine =>
    refine .inr (.inr ?_)
    simp only [perform, listMoods, getMood, listConversations, getConversation, getLine,
      Operation.map_apply, logged_database, Operation.reading_apply]
    exact world.database.withRows_id.symm

end MoodStore
