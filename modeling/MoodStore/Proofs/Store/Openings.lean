import Mathlib.Data.Int.Notation
import Mathlib.Data.List.Basic
import Mathlib.Tactic.Common
import MoodStore.Proofs.Store.PoolSettings

/-!
Openings are all or nothing.

A file is opened as it is if it has the latest version, and migrated if it has version 0 and nothing
in it has the name of something that the script creates. In every other case it is left alone, even
if only the last statement of the script is refused.

The script runs statement by statement over what the statements before it have created. None of them
is in the way of a later one, so the first statement to be refused is the first whose name was held
when the file was opened.
-/

namespace MoodStore

namespace Migration

variable {objects : List Object} {name : String}

lemma holder?_eq_none_iff :
    holder? objects name = none ↔ ∀ object ∈ objects, sameName name object.name = false := by
  simp [holder?]

/-! ### What one statement creates -/

lemma holder?_create {statement : Statement} (hname : sameName name statement.name = false)
    (hcounters : sameName name counters.name = false) (objects : List Object) :
    holder? (statement.create objects) name = holder? objects name := by
  unfold Statement.create holder?
  split <;> simp [List.find?_append, Statement.object, hname, hcounters]

lemma mem_create {statement : Statement} {object : Object} :
    object ∈ statement.create objects ↔ object ∈ objects ∨ object = statement.object ∨
      statement.kind = .table ∧ object = counters := by
  unfold Statement.create
  rw [List.mem_append, List.mem_cons]
  split_ifs with hnew
  · simp [hnew.1]
  · constructor
    · rintro (h | h | h)
      · exact .inl h
      · exact .inr (.inl h)
      · cases h
    · rintro (h | h | ⟨hkind, rfl⟩)
      · exact .inl h
      · exact .inr (.inl h)
      · exact .inl (not_not.mp fun h => hnew ⟨hkind, h⟩)

/-! ### Running statements -/

/-- The objects once all statements have run. -/
def createAll (objects : List Object) (statements : List Statement) : List Object :=
  statements.foldl (fun objects statement => statement.create objects) objects

/-- No statement takes a name that another one needs. -/
structure Apart (statements : List Statement) : Prop where
  distinct : statements.Pairwise fun earlier later => sameName later.name earlier.name = false
  uncounted : ∀ statement ∈ statements, sameName statement.name counters.name = false

lemma script_apart : Apart script := ⟨by decide +kernel, by decide +kernel⟩

/-- Statements whose names are free run, and the others go on with what they have created. -/
lemma run_append {made left : List Statement} (apart : Apart (made ++ left))
    (free : ∀ statement ∈ made, holder? objects statement.name = none) :
    run objects (made ++ left) = run (createAll objects made) left ∧
      ∀ statement ∈ left,
        holder? (createAll objects made) statement.name = holder? objects statement.name := by
  induction made generalizing objects with
  | nil => exact ⟨rfl, fun _ _ => rfl⟩
  | cons first made ih =>
    obtain ⟨hfirst, hdistinct⟩ := List.pairwise_cons.mp apart.distinct
    -- the first statement takes a name that no later one needs
    have hkept : ∀ statement ∈ made ++ left,
        holder? (first.create objects) statement.name = holder? objects statement.name :=
      fun statement hstatement => holder?_create (hfirst statement hstatement)
        (apart.uncounted statement (List.mem_cons_of_mem _ hstatement)) objects
    have hrest : ∀ statement ∈ made, holder? (first.create objects) statement.name = none := by
      intro statement hstatement
      rw [hkept statement (List.mem_append_left _ hstatement)]
      exact free statement (List.mem_cons_of_mem _ hstatement)
    have hapart : Apart (made ++ left) :=
      ⟨hdistinct, fun statement h => apart.uncounted statement (List.mem_cons_of_mem _ h)⟩
    obtain ⟨hrun, hheld⟩ := ih hapart hrest
    refine ⟨?_, fun statement hstatement => ?_⟩
    · rw [List.cons_append, run, free first List.mem_cons_self]
      exact hrun
    · have hmem := List.mem_append_right made hstatement
      exact (hheld statement hstatement).trans (hkept statement hmem)

lemma run_of_free {statements : List Statement} (apart : Apart statements)
    (free : ∀ statement ∈ statements, holder? objects statement.name = none) :
    run objects statements = (.ok (), createAll objects statements) := by
  have happend : Apart (statements ++ []) := by rwa [List.append_nil]
  have hrun := (run_append happend free).1
  rw [List.append_nil] at hrun
  rw [hrun, run]

lemma run_of_held {made left : List Statement} {statement : Statement} {holder : Holder}
    (apart : Apart (made ++ statement :: left))
    (free : ∀ statement ∈ made, holder? objects statement.name = none)
    (held : holder? objects statement.name = some holder) :
    run objects (made ++ statement :: left) =
      (.error (refusal holder statement left), createAll objects made) := by
  obtain ⟨hrun, hheld⟩ := run_append apart free
  rw [hrun, run, hheld statement List.mem_cons_self, held]

lemma free_or_held (objects : List Object) (statements : List Statement) :
    (∀ statement ∈ statements, holder? objects statement.name = none) ∨
      ∃ made statement left holder, statements = made ++ statement :: left ∧
        (∀ statement ∈ made, holder? objects statement.name = none) ∧
        holder? objects statement.name = some holder := by
  induction statements with
  | nil => exact .inl (by simp)
  | cons first statements ih =>
    cases hfirst : holder? objects first.name with
    | some holder => exact .inr ⟨[], first, statements, holder, rfl, by simp, hfirst⟩
    | none =>
      obtain hfree | ⟨made, statement, left, holder, rfl, hmade, hheld⟩ := ih
      · exact .inl (List.forall_mem_cons.mpr ⟨hfirst, hfree⟩)
      · exact .inr ⟨first :: made, statement, left, holder, rfl,
          List.forall_mem_cons.mpr ⟨hfirst, hmade⟩, hheld⟩

lemma mem_createAll {statements : List Statement} {object : Object} :
    object ∈ createAll objects statements ↔ object ∈ objects ∨
      ∃ statement ∈ statements, object = statement.object ∨
        statement.kind = .table ∧ object = counters := by
  induction statements generalizing objects with
  | nil => simp [createAll]
  | cons first statements ih =>
    have hstep : createAll objects (first :: statements) =
        createAll (first.create objects) statements := rfl
    rw [hstep, ih, mem_create]
    simp only [List.exists_mem_cons_iff, or_assoc]

end Migration

namespace Database

variable {db : Database}

/-! ### Objects of the store -/

/-- Something in the database has the name of something that the script creates. -/
def Clashes (db : Database) : Prop :=
  ∃ object ∈ db.objects, ∃ statement ∈ Migration.script,
    Migration.sameName statement.name object.name = true

lemma not_clashes_iff : ¬db.Clashes ↔
    ∀ statement ∈ Migration.script, Migration.holder? db.objects statement.name = none := by
  simp only [Clashes, Migration.holder?_eq_none_iff, not_exists, not_and, Bool.not_eq_true]
  exact ⟨fun h statement hs object ho => h object ho statement hs,
    fun h object ho statement hs => h statement hs object ho⟩

lemma rows_eq_none_of_not_clashes (h : ¬db.Clashes) : db.rows = none := by
  by_contra hrows
  have hsome : db.rows.isSome = true := Option.isSome_iff_ne_none.mpr hrows
  have hmem : ⟨.table, "moods"⟩ ∈ db.objects := by
    simp [objects, tables, hsome, Migration.tables, Migration.names, Migration.script]
  exact h ⟨_, hmem, Migration.script.head (by decide), List.head_mem _, by decide +kernel⟩

/-- The database that a migration leaves. -/
def migrated (db : Database) : Database :=
  { db with version := latestVersion, rows := some .empty }

lemma mem_objects_migrated (h : db.rows = none) (object : Migration.Object) :
    object ∈ db.migrated.objects ↔
      object ∈ Migration.createAll db.objects Migration.script := by
  rw [Migration.mem_createAll]
  simp only [objects, tables, indexes, migrated, h, Option.isSome_none, Option.isSome_some,
    Bool.false_eq_true, if_false, if_true, List.append_nil, List.map_append, List.mem_append]
  have hstore : (object ∈ (Migration.tables ++ [Migration.counters.name]).map
        (fun name => (⟨.table, name⟩ : Migration.Object)) ∨
      object ∈ Migration.indexes.map (fun name => (⟨.index, name⟩ : Migration.Object))) ↔
      ∃ statement ∈ Migration.script, object = statement.object ∨
        statement.kind = .table ∧ object = Migration.counters := by
    simp only [Migration.tables, Migration.indexes, Migration.names, Migration.script,
      Migration.counters, Migration.Statement.object]
    simp
    tauto
  rw [← hstore, List.map_append, List.mem_append]
  tauto

/-! ### Migrating -/

/-- What comes of bringing a database to the latest version. In a clash it is the first statement
whose name is held that is refused. -/
inductive Upgrade (db : Database) : Except DbError Database → Prop
  | outOfRange (h : db.version < 0) : Upgrade db (.error (.engine (.outOfRange 0 db.version)))
  | newer (h : (latestVersion : ℤ) < db.version) :
    Upgrade db (.error (.unsupportedVersion db.version.toNat latestVersion))
  | current (h : db.version = latestVersion) : Upgrade db (.ok db)
  | clashing (h : db.version = 0) {made left : List Migration.Statement}
    {statement : Migration.Statement} {holder : Migration.Holder}
    (script : Migration.script = made ++ statement :: left)
    (free : ∀ statement ∈ made, Migration.holder? db.objects statement.name = none)
    (held : Migration.holder? db.objects statement.name = some holder) :
    Upgrade db (.error (.engine (Migration.refusal holder statement left)))
  | migrated (h : db.version = 0) (free : ¬db.Clashes) : Upgrade db (.ok db.migrated)

lemma migrate_upgrade (db : Database) : db.Upgrade db.migrate.1 := by
  unfold migrate
  split_ifs with hnegative hnewer hcurrent
  · exact .outOfRange hnegative
  · exact .newer hnewer
  · exact .current hcurrent
  · have hzero : db.version = 0 := by simp only [latestVersion] at *; omega
    obtain hfree | ⟨made, statement, left, holder, hscript, hmade, hheld⟩ :=
      Migration.free_or_held db.objects Migration.script
    · rw [Migration.run_of_free Migration.script_apart hfree]
      exact .migrated hzero (not_clashes_iff.mpr hfree)
    · have hrun := Migration.run_of_held (hscript ▸ Migration.script_apart) hmade hheld
      rw [← hscript] at hrun
      rw [hrun]
      exact .clashing hzero hscript hmade hheld

lemma migrate_of_current (h : db.version = latestVersion) : db.migrate = (.ok db, []) := by
  unfold migrate
  rw [if_neg (by rw [h]; decide), if_neg (by rw [h]; decide), if_pos h]

end Database

/-! ### Opening -/

structure StoreConfig.Valid (config : StoreConfig) : Prop where
  patient : 0 < config.connectionTimeoutMs
  idle : ∀ idle, config.minIdle = some idle → idle ≤ config.poolSize
  busy : config.busyTimeoutMs ≤ Opening.maxBusyTimeoutMs

namespace Opening

variable {config : StoreConfig} {db : Database} {site : Site}

lemma crash?_eq_none (valid : config.Valid) : crash? config = none := by
  rw [crash?_eq_pool, PoolSettings.crash?_eq_none_iff, StoreConfig.pool_accepted_iff]
  exact ⟨valid.patient, valid.idle⟩

/-- How an opening ends, and what is left of the database, if this comes of migrating it. -/
def ending (db : Database) : Except DbError Database → Opened × Database
  | .ok new => (.store new, new)
  | .error error => (.failed error, db)

lemma openFile_eq (valid : config.Valid) (hsite : touch site = .database db) (elapsedMs : ℕ) :
    (openFile config site elapsedMs).1 = (ending db db.migrate.1).1 ∧
      (openFile config site elapsedMs).2.1 = .database (ending db db.migrate.1).2 := by
  have hreach : reach? config site = some db := by
    unfold reach?
    rw [if_neg (Nat.not_lt.mpr valid.busy), hsite]
  unfold openFile
  simp only [crash?_eq_none valid, hreach, finish]
  rcases db.migrate with ⟨_ | _, events⟩
  · exact ⟨rfl, rfl⟩
  · exact ⟨rfl, rfl⟩

/-- What an opening has made of a database, where it gave a store. What a migration adds is what its
script creates, statement by statement; all else stays. -/
structure Grown (db new : Database) : Prop where
  version : new.version = Database.latestVersion
  tables : db.version = 0 → ∀ table ∈ Migration.tables, new.hasTable table = true
  created : db.version = 0 → ∀ object,
    object ∈ new.objects ↔ object ∈ (Migration.run db.objects Migration.script).2
  objects : ∀ object ∈ db.objects, object ∈ new.objects
  otherRows : new.otherRows = db.otherRows
  rows : ∀ rows, db.rows = some rows → new.rows = some rows
  current : db.version = Database.latestVersion → new = db

/-- How opening a database can end, and what it leaves of it. -/
structure AllOrNothing (db : Database) (opened : Opened) (left : Site) : Prop where
  store_iff : (∃ new, opened = .store new) ↔
    db.version = Database.latestVersion ∨ db.version = 0 ∧ ¬db.Clashes
  newer_iff : ∀ version latest, opened = .failed (.unsupportedVersion version latest) ↔
    (Database.latestVersion : ℤ) < db.version ∧ (version : ℤ) = db.version ∧
      latest = Database.latestVersion
  engine_iff : (∃ failure, opened = .failed (.engine failure)) ↔
    ¬(db.version = Database.latestVersion ∨ db.version = 0 ∧ ¬db.Clashes) ∧
      ¬(Database.latestVersion : ℤ) < db.version
  grown : ∀ new, opened = .store new → left = .database new ∧ Grown db new
  undone : ∀ error, opened = .failed error → left = .database db

lemma grown_of_current (h : db.version = Database.latestVersion) : Grown db db where
  version := h
  tables hzero := absurd (hzero.symm.trans h) (by decide)
  created hzero := absurd (hzero.symm.trans h) (by decide)
  objects _ hobject := hobject
  otherRows := rfl
  rows _ hrows := hrows
  current _ := rfl

lemma grown_migrated (h : db.version = 0) (free : ¬db.Clashes) : Grown db db.migrated := by
  have hrows := Database.rows_eq_none_of_not_clashes free
  have hmem := Database.mem_objects_migrated hrows
  refine ⟨rfl, fun _ table htable => ?_, fun _ object => ?_, fun object hobject => ?_, rfl,
    fun rows hsome => ?_, fun hlatest => absurd (h.symm.trans hlatest) (by decide)⟩
  · simp [Database.hasTable, Database.tables, Database.migrated, htable]
  · rw [Migration.run_of_free Migration.script_apart (Database.not_clashes_iff.mp free)]
    exact hmem object
  · exact (hmem object).mpr (Migration.mem_createAll.mpr (.inl hobject))
  · rw [hrows] at hsome
    cases hsome

lemma allOrNothing_failed {error : DbError}
    (store : ¬(db.version = Database.latestVersion ∨ db.version = 0 ∧ ¬db.Clashes))
    (newer : ∀ version latest, error = .unsupportedVersion version latest ↔
      (Database.latestVersion : ℤ) < db.version ∧ (version : ℤ) = db.version ∧
        latest = Database.latestVersion)
    (engine : (∃ failure, error = .engine failure) ↔
      ¬(Database.latestVersion : ℤ) < db.version) :
    AllOrNothing db (.failed error) (.database db) where
  store_iff := iff_of_false (by rintro ⟨_, ⟨⟩⟩) store
  newer_iff version latest := by rw [Opened.failed.injEq]; exact newer version latest
  engine_iff := by simp only [Opened.failed.injEq, engine, store, not_false_eq_true, true_and]
  grown := by rintro _ ⟨⟩
  undone := by rintro _ -; rfl

lemma allOrNothing_refused {failure : Failure} (early : db.version ≤ 0)
    (store : ¬(db.version = Database.latestVersion ∨ db.version = 0 ∧ ¬db.Clashes)) :
    AllOrNothing db (.failed (.engine failure)) (.database db) := by
  have hnewer : ¬(Database.latestVersion : ℤ) < db.version := by
    simp only [Database.latestVersion]
    omega
  exact allOrNothing_failed store (fun _ _ => iff_of_false (by rintro ⟨⟩) fun h => hnewer h.1)
    (iff_of_true ⟨failure, rfl⟩ hnewer)

lemma allOrNothing_store {new : Database}
    (store : db.version = Database.latestVersion ∨ db.version = 0 ∧ ¬db.Clashes)
    (grown : Grown db new) : AllOrNothing db (.store new) (.database new) where
  store_iff := iff_of_true ⟨new, rfl⟩ store
  newer_iff version latest := by
    refine iff_of_false (by rintro ⟨⟩) fun h => ?_
    have hnewer := h.1
    simp only [Database.latestVersion] at hnewer store
    omega
  engine_iff := iff_of_false (by rintro ⟨_, ⟨⟩⟩) fun h => h.1 store
  grown := by
    rintro _ ⟨⟩
    exact ⟨rfl, grown⟩
  undone := by rintro _ ⟨⟩

lemma allOrNothing_of_upgrade {outcome : Except DbError Database} (h : db.Upgrade outcome) :
    AllOrNothing db (ending db outcome).1 (.database (ending db outcome).2) := by
  cases h with
  | current hlatest => exact allOrNothing_store (.inl hlatest) (grown_of_current hlatest)
  | migrated hzero free => exact allOrNothing_store (.inr ⟨hzero, free⟩) (grown_migrated hzero free)
  | newer hnewer =>
    have hstore : ¬(db.version = Database.latestVersion ∨ db.version = 0 ∧ ¬db.Clashes) := by
      simp only [Database.latestVersion] at hnewer ⊢
      omega
    refine allOrNothing_failed hstore (fun version latest => ?_)
      (iff_of_false (by rintro ⟨_, ⟨⟩⟩) (not_not.mpr hnewer))
    have hversion : db.version.toNat = version ↔ (version : ℤ) = db.version := by omega
    rw [DbError.unsupportedVersion.injEq, hversion, eq_comm (a := Database.latestVersion)]
    exact ⟨fun h => ⟨hnewer, h⟩, fun h => h.2⟩
  | outOfRange hnegative =>
    refine allOrNothing_refused (Int.le_of_lt hnegative) ?_
    simp only [Database.latestVersion]
    omega
  | clashing hzero script free held =>
    refine allOrNothing_refused (Int.le_of_eq hzero) ?_
    rintro (hlatest | ⟨-, hclear⟩)
    · simp only [Database.latestVersion] at hlatest
      omega
    · -- the name of a statement of the script is held
      have hmem := script ▸ List.mem_append_right _ List.mem_cons_self
      rw [Database.not_clashes_iff.mp hclear _ hmem] at held
      cases held

/-- **Openings are all or nothing.** Opening a database file with any version, and with any tables,
indexes and views in it, gives a store just when the version is the latest, or it is 0 and no name
is held that the migration needs. A later version is refused as such and everything else by the
engine. Where no store is given, nothing has changed; where one is given, all that was there is
still there. Opening the file again, with any valid settings, ends in the same way and changes
nothing. -/
theorem openings_are_all_or_nothing (valid : config.Valid) (hsite : touch site = .database db)
    (elapsedMs : ℕ) :
    let opened := (openFile config site elapsedMs).1
    let left := (openFile config site elapsedMs).2.1
    AllOrNothing db opened left ∧
      ∀ again : StoreConfig, again.Valid → ∀ elapsedMs',
        (openFile again left elapsedMs').1 = opened ∧
          (openFile again left elapsedMs').2.1 = left := by
  obtain ⟨hopened, hleft⟩ := openFile_eq valid hsite elapsedMs
  have hends := allOrNothing_of_upgrade db.migrate_upgrade
  intro opened left
  rw [← hopened, ← hleft] at hends
  have htouch : touch left = .database (ending db db.migrate.1).2 := congrArg touch hleft
  refine ⟨hends, fun again valid' elapsedMs' => ?_⟩
  obtain ⟨hopened', hleft'⟩ := openFile_eq valid' htouch elapsedMs'
  rcases hmigrate : db.migrate.1 with error | new
  · rw [hmigrate] at hopened hleft hopened' hleft'
    rw [hopened', hleft', ending, hmigrate]
    exact ⟨hopened.symm, hleft.symm⟩
  · rw [hmigrate] at hopened hleft hopened' hleft'
    have hcurrent := (hends.grown new hopened).2.version
    rw [hopened', hleft', ending, Database.migrate_of_current hcurrent]
    exact ⟨hopened.symm, hleft.symm⟩

theorem opening_refused_by_last_index :
    let db : Database := { Database.blank with
      otherTables := ["notes"], views := ["IDX_Lines_Mood_ID"] }
    let opened := (openFile .default (.database db) 0).1
    let left := (openFile .default (.database db) 0).2.1
    StoreConfig.default.Valid ∧ touch (.database db) = .database db ∧
      opened =
        .failed (.engine (.result 1 "there is already a table named idx_lines_mood_id")) ∧
      left = .database db ∧ AllOrNothing db opened left ∧
      (openFile .default left 0).1 = opened := by
  intro db opened left
  have valid : StoreConfig.default.Valid := ⟨by decide, by rintro _ ⟨⟩, by decide⟩
  have hsite : touch (.database db) = .database db := rfl
  obtain ⟨hends, hagain⟩ := openings_are_all_or_nothing valid hsite 0
  have hopened : opened =
      .failed (.engine (.result 1 "there is already a table named idx_lines_mood_id")) := rfl
  exact ⟨valid, hsite, hopened, hends.undone _ hopened, hends, (hagain _ valid 0).1⟩

end Opening

end MoodStore
