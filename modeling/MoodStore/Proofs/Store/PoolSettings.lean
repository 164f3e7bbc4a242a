import Mathlib.Tactic.Common
import MoodStore.Json.Parse
import MoodStore.Store.Opening

/-!
What an opening hands to the pool of connections.

The builder of the pool crashes on a size of zero, on a connection timeout of zero, and on more idle
connections than the pool may hold. The size of a configuration is clamped before it is handed over,
the other two settings are not; so an opening crashes just where one of them is refused.
-/

namespace MoodStore

open Json (Value)

/-- What the builder of a pool is given. -/
structure PoolSettings where
  maxSize : ℕ
  minIdle : Option ℕ
  connectionTimeoutMs : ℕ
  deriving DecidableEq, Repr

namespace PoolSettings

structure Accepted (settings : PoolSettings) : Prop where
  size : 0 < settings.maxSize
  patient : 0 < settings.connectionTimeoutMs
  idle : ∀ idle, settings.minIdle = some idle → idle ≤ settings.maxSize

/-- How the builder crashes. It looks at the size and at the timeout when it is given them, and at
the idle connections when it builds. -/
def crash? (settings : PoolSettings) : Option String :=
  if settings.maxSize = 0 then some "max_size must be positive"
  else if settings.connectionTimeoutMs = 0 then some "connection_timeout must be positive"
  else
    match settings.minIdle with
    | some idle =>
      if settings.maxSize < idle then some "min_idle must be no larger than max_size" else none
    | none => none

lemma crash?_eq_none_iff {settings : PoolSettings} :
    settings.crash? = none ↔ settings.Accepted := by
  obtain ⟨size, idle?, timeout⟩ := settings
  unfold crash?
  constructor
  · intro h
    split_ifs at h with hsize hpatient
    refine ⟨Nat.pos_of_ne_zero hsize, Nat.pos_of_ne_zero hpatient, ?_⟩
    rintro idle ⟨⟩
    simpa using h
  · rintro ⟨hsize, hpatient, hidle⟩
    rw [if_neg (Nat.ne_of_gt hsize), if_neg (Nat.ne_of_gt hpatient)]
    cases idle? with
    | none => rfl
    | some idle => exact if_neg (Nat.not_lt.mpr (hidle idle rfl))

end PoolSettings

namespace StoreConfig

variable {config : StoreConfig}

/-- What an opening hands to the builder of its pool. -/
def pool (config : StoreConfig) : PoolSettings :=
  ⟨config.poolSize, config.minIdle, config.connectionTimeoutMs⟩

lemma pool_maxSize_pos (config : StoreConfig) : 0 < config.pool.maxSize :=
  Nat.le_max_right config.maxConnections 1

lemma pool_accepted_iff : config.pool.Accepted ↔ 0 < config.connectionTimeoutMs ∧
    ∀ idle, config.minIdle = some idle → idle ≤ max config.maxConnections 1 :=
  ⟨fun accepted => ⟨accepted.patient, accepted.idle⟩,
    fun ⟨patient, idle⟩ => ⟨config.pool_maxSize_pos, patient, idle⟩⟩

lemma pool_accepted_of_unset {value : Value} {path size busy : Option Value}
    (hslots : value.slots? fields = some [path, size, none, busy, none])
    (hconfig : ofJson? value = some config) : config.pool.Accepted := by
  simp only [ofJson?, hslots, Option.bind_eq_bind, Option.bind_some, Option.pure_def] at hconfig
  obtain ⟨_, -, hconfig⟩ := Option.bind_eq_some_iff.mp hconfig
  obtain ⟨_, -, hconfig⟩ := Option.bind_eq_some_iff.mp hconfig
  obtain ⟨idle, hidle, hconfig⟩ := Option.bind_eq_some_iff.mp hconfig
  obtain ⟨_, -, hconfig⟩ := Option.bind_eq_some_iff.mp hconfig
  obtain ⟨timeout, htimeout, hconfig⟩ := Option.bind_eq_some_iff.mp hconfig
  obtain rfl := Option.some_inj.mp hidle
  obtain rfl := Option.some_inj.mp htimeout
  obtain rfl := Option.some_inj.mp hconfig
  exact pool_accepted_iff.mpr ⟨Nat.succ_pos _, by rintro _ ⟨⟩⟩

end StoreConfig

namespace Opening

variable (config : StoreConfig) (site : Site) (elapsedMs : ℕ)

/-- The opening crashes as the builder does; the size is never to blame. -/
lemma crash?_eq_pool : crash? config = config.pool.crash? := by
  have hsize : config.pool.maxSize ≠ 0 := Nat.ne_of_gt config.pool_maxSize_pos
  unfold PoolSettings.crash?
  rw [if_neg hsize]
  rfl

lemma openFile_of_crash {message : String} (h : config.pool.crash? = some message) :
    openFile config site elapsedMs =
      (.crashed message, site, [startEvent .file config.poolSize]) := by
  rw [← crash?_eq_pool] at h
  simp only [openFile, h]

lemma openFile_of_accepted (h : config.pool.crash? = none) :
    (∃ db, (openFile config site elapsedMs).1 = .store db) ∨
      ∃ error, (openFile config site elapsedMs).1 = .failed error := by
  rw [← crash?_eq_pool] at h
  simp only [openFile, h]
  cases reach? config site with
  | none => exact .inr ⟨_, rfl⟩
  | some db =>
    simp only [finish]
    rcases db.migrate with ⟨error | migrated, events⟩
    · exact .inr ⟨error, rfl⟩
    · exact .inl ⟨migrated, rfl⟩

/-- **Openings crash on refused settings only.** Whatever the configuration, an opening crashes just
where the builder of the pool does, which is where the connection timeout is zero or more idle
connections are asked for than the clamped size; then the file is not touched. Otherwise it gives a
store or an error. So it does for every document that sets neither the timeout nor the idle
connections. -/
theorem openings_crash_on_refused_settings :
    let (opened, left, events) := openFile config site elapsedMs
    (∀ message, opened = .crashed message ↔ config.pool.crash? = some message) ∧
      (config.pool.Accepted ↔ 0 < config.connectionTimeoutMs ∧
        ∀ idle, config.minIdle = some idle → idle ≤ max config.maxConnections 1) ∧
      (((∃ db, opened = .store db) ∨ ∃ error, opened = .failed error) ↔ config.pool.Accepted) ∧
      (¬config.pool.Accepted → left = site ∧ events = [startEvent .file config.poolSize]) ∧
      ∀ value path size busy, Value.slots? StoreConfig.fields value =
        some [path, size, none, busy, none] → StoreConfig.ofJson? value = some config →
          config.pool.Accepted := by
  have hunset : ∀ value path size busy, Value.slots? StoreConfig.fields value =
      some [path, size, none, busy, none] → StoreConfig.ofJson? value = some config →
        config.pool.Accepted :=
    fun _ _ _ _ => StoreConfig.pool_accepted_of_unset
  cases hcrash : config.pool.crash? with
  | some message =>
    have refused : ¬config.pool.Accepted := by
      rw [← PoolSettings.crash?_eq_none_iff, hcrash]
      rintro ⟨⟩
    rw [openFile_of_crash config site elapsedMs hcrash]
    refine ⟨fun other => ?_, StoreConfig.pool_accepted_iff, iff_of_false ?_ refused,
      fun _ => ⟨rfl, rfl⟩, hunset⟩
    · rw [Opened.crashed.injEq, Option.some_inj]
    · rintro (⟨_, ⟨⟩⟩ | ⟨_, ⟨⟩⟩)
  | none =>
    have accepted := PoolSettings.crash?_eq_none_iff.mp hcrash
    have hended := openFile_of_accepted config site elapsedMs hcrash
    refine ⟨fun other => iff_of_false ?_ (by rintro ⟨⟩), StoreConfig.pool_accepted_iff,
      iff_of_true hended accepted, fun refused => absurd accepted refused, hunset⟩
    intro hcrashed
    rcases hended with ⟨_, h⟩ | ⟨_, h⟩ <;> cases h.symm.trans hcrashed

/-- Documents that are read and crash the opening. The size is clamped, but not the connections that
are kept for it. -/
theorem documents_crash_openings :
    let read (text : String) := (Json.parse? text).bind StoreConfig.ofJson?
    let few : StoreConfig := ⟨"saypi.db", 2, some 3, 5000, 30000⟩
    let hasty : StoreConfig := ⟨"saypi.db", 8, none, 5000, 0⟩
    read "\x7b\"max_connections\": 2, \"min_idle\": 3\x7d" = some few ∧
      ¬few.pool.Accepted ∧
      (openFile few .absent 0).1 = .crashed "min_idle must be no larger than max_size" ∧
      read "\x7b\"connection_timeout_ms\": 0\x7d" = some hasty ∧
      ¬hasty.pool.Accepted ∧
      (openFile hasty .absent 0).1 = .crashed "connection_timeout must be positive" := by
  intro read few hasty
  refine ⟨by decide +kernel, fun h => ?_, rfl, by decide +kernel, fun h => ?_, rfl⟩
  · exact absurd (h.idle 3 rfl) (by decide)
  · exact absurd h.patient (by decide)

end Opening

end MoodStore
