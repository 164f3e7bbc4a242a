import MoodStore.Logging.Config
import MoodStore.Proofs.Json.Settings
import MoodStore.StoreConfig

/-!
Configurations depend on their known members only.

Store configurations and logging settings both have five settings; missing ones take their defaults.
-/

namespace MoodStore

namespace StoreConfig

open Json (Setting)

def settings : List (Setting StoreConfig) :=
  [⟨"path", .text, "saypi.db", path⟩,
    ⟨"max_connections", .whole UInt32.size, 8, maxConnections⟩,
    ⟨"min_idle", .orNull (.whole UInt32.size), none, minIdle⟩,
    ⟨"busy_timeout_ms", .whole UInt64.size, 5000, busyTimeoutMs⟩,
    ⟨"connection_timeout_ms", .whole UInt64.size, 30000, connectionTimeoutMs⟩]

lemma readBySlots : Json.ReadBySlots ofJson? settings :=
  .of_five mk (fun _ => rfl) (fun _ _ _ _ _ => ⟨rfl, rfl, rfl, rfl, rfl⟩) (fun _ => rfl)

end StoreConfig

namespace Logging.Config

open Json (Setting)

def settings (profile : Profile) : List (Setting Config) :=
  [⟨"level", .text, if profile = .debug then "debug" else "info", level⟩,
    ⟨"dir", .text, "", dir⟩,
    ⟨"max_file_size_bytes", .whole UInt64.size, 10 * 1024 * 1024, maxFileSizeBytes⟩,
    ⟨"max_files", .whole UInt64.size, 5, maxFiles⟩,
    ⟨"duplicate_to_stderr", .flag, false, duplicateToStderr⟩]

lemma readBySlots (profile : Profile) :
    Json.ReadBySlots (ofJson? · profile) (settings profile) := by
  have hlevel : defaultLevel profile = if profile = .debug then "debug" else "info" := by
    cases profile with
    | debug => rfl
    | release => rfl
  rw [settings, ← hlevel]
  exact .of_five mk (fun _ => rfl) (fun _ _ _ _ _ => ⟨rfl, rfl, rfl, rfl, rfl⟩) fun _ => rfl

end Logging.Config

/-- **Configurations depend on their known members only.** An object text is read as a store
configuration or as logging settings exactly if no key escapes half of a surrogate pair, no known
key occurs twice and every known key holds a value of its kind. Then every setting with a member
takes that member's value, and every other one its default. Permuting the members, and adding or
removing unknown ones with keys that are texts, changes nothing. -/
theorem configurations_depend_on_known_members :
    Json.DecidedByKnown StoreConfig.ofJson? StoreConfig.settings ∧
      ∀ profile, Json.DecidedByKnown (Logging.Config.ofJson? · profile)
        (Logging.Config.settings profile) :=
  ⟨StoreConfig.readBySlots.decidedByKnown,
    fun profile => (Logging.Config.readBySlots profile).decidedByKnown⟩

/-- Unknown members with nested values, known keys among them, between members out of order. -/
example :
    let unknown := "[\x7b\"path\": 3, \"path\": 4\x7d, null, \"\\ud800\"]"
    let text := "\x7b\"x\":" ++ unknown ++
      ", \"min_idle\": null, \"\\u0070ath\": \"m.db\", \"x\": 1e9\x7d"
    Json.readText? StoreConfig.ofJson? text = some ⟨"m.db", 8, none, 5000, 30000⟩ := by
  decide +kernel

/-- A key that escapes half of a surrogate pair is unknown, but it is not passed over. -/
theorem half_pair_key_is_refused :
    let text := "\x7b\"\\ud800\": 1\x7d"
    let members := [(none, .number (.whole 1))]
    Json.parse? text = some (.object members) ∧
      (∀ setting ∈ StoreConfig.settings, setting.Fits members) ∧
      Json.readText? StoreConfig.ofJson? text = none ∧
      Json.readText? StoreConfig.ofJson? "\x7b\x7d" = some StoreConfig.default ∧
      ∀ profile, (∀ setting ∈ Logging.Config.settings profile, setting.Fits members) ∧
        Json.readText? (Logging.Config.ofJson? · profile) text = none ∧
        Json.readText? (Logging.Config.ofJson? · profile) "\x7b\x7d" =
          some (Logging.Config.default profile) := by
  intro text members
  have hchars : text.toList =
      ['\x7b', '"', '\\', 'u', 'd', '8', '0', '0', '"', ':', ' ', '1', '\x7d'] := by
    decide +kernel
  have hparse : Json.parse? text = some (.object members) := by
    rw [Json.parse?, hchars]
    rfl
  have hfits : ∀ {Config : Type} (setting : Json.Setting Config), setting.Fits members := by
    intro Config setting
    refine ⟨?_, ?_⟩
    · simp [members]
    · simp [members]
  refine ⟨hparse, fun setting _ => hfits setting, by decide +kernel, by decide +kernel,
    fun profile => ⟨fun setting _ => hfits setting, ?_⟩⟩
  cases profile with
  | debug => decide +kernel
  | release => decide +kernel

end MoodStore
