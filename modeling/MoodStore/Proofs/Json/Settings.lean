import Mathlib.Tactic.MkIffOfInductiveProp
import MoodStore.Proofs.Json.Members
import MoodStore.Proofs.Json.Objects

/-!
Objects that list settings.

Each setting has a key, a kind of values and a default. An object is read as a configuration when
every setting has at most one member and that member's value is of its kind. Members with other keys
are passed over, wherever they stand and whatever they hold; the one thing asked of them is a key
with content.
-/

namespace MoodStore.Json

open Value (asString? asBool? asNat? asNullable? member? optional? keysFit)

/-! ### Kinds of values -/

/-- Which values stand for which elements of a type, and the function that reads them. -/
structure Kind (α : Type) where
  Stands : Value → α → Prop
  read : Value → Option α
  read_eq_some_iff : ∀ {value x}, read value = some x ↔ Stands value x

namespace Kind

def text : Kind String where
  Stands value s := value = .string s
  read := asString?
  read_eq_some_iff := by
    intro value s
    cases value <;> simp [asString?, Value.string]

def flag : Kind Bool where
  Stands value b := value = .bool b
  read := asBool?
  read_eq_some_iff := by
    intro value b
    cases value <;> simp [asBool?]

/-- The whole numbers from 0 to below a bound. -/
def whole (bound : ℕ) : Kind ℕ where
  Stands value n := value = .number (.whole n) ∧ n < bound
  read := asNat? bound
  read_eq_some_iff := by
    intro value n
    unfold asNat?
    split
    · next k =>
      split_ifs with hk
      · simp only [Option.some_inj, Value.number.injEq, Number.whole.injEq]
        constructor
        · rintro rfl
          exact ⟨rfl, hk⟩
        · rintro ⟨heq, -⟩
          exact Int.ofNat.inj heq
      · simp only [Value.number.injEq, Number.whole.injEq, false_iff]
        rintro ⟨heq, hn⟩
        exact hk (Int.ofNat.inj heq ▸ hn)
    · next hother =>
      simp only [reduceCtorEq, false_iff]
      rintro ⟨rfl, -⟩
      exact hother n rfl

/-- A null, or a value of the kind. -/
def orNull {α : Type} (kind : Kind α) : Kind (Option α) where
  Stands value x :=
    value = .null ∧ x = none ∨ value ≠ .null ∧ ∃ y, kind.Stands value y ∧ some y = x
  read := asNullable? kind.read
  read_eq_some_iff := by
    intro value x
    cases value with
    | null => simp [asNullable?, eq_comm]
    | _ => simp [asNullable?, kind.read_eq_some_iff]

end Kind

/-! ### Settings -/

/-- A setting of a configuration: its key, what may stand there, its default, and what a
configuration has for it. -/
structure Setting (Config : Type) where
  key : String
  {Content : Type}
  kind : Kind Content
  default : Content
  get : Config → Content

namespace Setting

variable {Config : Type}

/-- No member repeats the setting's key, and one with it holds a value of the setting's kind. -/
structure Fits (setting : Setting Config) (members : List (Text × Value)) : Prop where
  once : (members.map Prod.fst).count (some setting.key) ≤ 1
  typed : ∀ value, (some setting.key, value) ∈ members → ∃ x, setting.kind.Stands value x

/-- The configuration takes what a member has for the setting, and the default if there is none. -/
@[mk_iff]
structure Taken (setting : Setting Config) (members : List (Text × Value)) (config : Config) :
    Prop where
  present : ∀ value, (some setting.key, value) ∈ members →
    setting.kind.Stands value (setting.get config)
  missing : (∀ value, (some setting.key, value) ∉ members) → setting.get config = setting.default

def ofSlot? (setting : Setting Config) (slot : Option Value) : Option setting.Content :=
  optional? setting.kind.read setting.default slot

def slot? (setting : Setting Config) (members : List (Text × Value)) : Option setting.Content :=
  setting.ofSlot? (member? members setting.key)

variable {setting : Setting Config} {members : List (Text × Value)}

lemma slot?_of_mem (honce : (members.map Prod.fst).count (some setting.key) ≤ 1) {value : Value}
    (h : (some setting.key, value) ∈ members) :
    setting.slot? members = setting.kind.read value := by
  rw [slot?, member?_of_once honce h]
  rfl

lemma slot?_of_not_mem (h : ∀ value, (some setting.key, value) ∉ members) :
    setting.slot? members = some setting.default := by
  rw [slot?, member?_eq_none h]
  rfl

lemma taken_iff_slot? (honce : (members.map Prod.fst).count (some setting.key) ≤ 1)
    {config : Config} :
    setting.Taken members config ↔ setting.slot? members = some (setting.get config) := by
  by_cases h : ∃ value, (some setting.key, value) ∈ members
  · obtain ⟨value, hvalue⟩ := h
    rw [slot?_of_mem honce hvalue, setting.kind.read_eq_some_iff]
    constructor
    · exact fun htaken => htaken.present value hvalue
    · intro hstands
      refine ⟨fun other hother => ?_, fun hmissing => absurd hvalue (hmissing value)⟩
      exact eq_of_once honce hvalue hother ▸ hstands
  · rw [not_exists] at h
    rw [slot?_of_not_mem h, Option.some_inj]
    constructor
    · exact fun htaken => (htaken.missing h).symm
    · exact fun heq => ⟨fun value hvalue => absurd hvalue (h value), fun _ => heq.symm⟩

lemma typed_iff (honce : (members.map Prod.fst).count (some setting.key) ≤ 1) :
    (∀ value, (some setting.key, value) ∈ members → ∃ x, setting.kind.Stands value x) ↔
      (setting.slot? members).isSome := by
  by_cases h : ∃ value, (some setting.key, value) ∈ members
  · obtain ⟨value, hvalue⟩ := h
    rw [slot?_of_mem honce hvalue, Option.isSome_iff_exists]
    simp only [setting.kind.read_eq_some_iff]
    constructor
    · exact fun htyped => htyped value hvalue
    · intro hstands other hother
      exact eq_of_once honce hvalue hother ▸ hstands
  · rw [not_exists] at h
    rw [slot?_of_not_mem h]
    exact ⟨fun _ => rfl, fun _ value hvalue => absurd hvalue (h value)⟩

end Setting

/-! ### Configurations -/

section Configurations

variable {Config : Type} {settings : List (Setting Config)} {members : List (Text × Value)}

def keys (settings : List (Setting Config)) : List String := settings.map (·.key)

/-- The members that a configuration with these settings knows. -/
def known (settings : List (Setting Config)) (members : List (Text × Value)) :
    List (Text × Value) :=
  members.filter fun m => m.1 ∈ (keys settings).map some

/-- The configuration that a text stands for. -/
def readText? (ofJson? : Value → Option Config) (text : String) : Option Config :=
  (parse? text).bind ofJson?

/-- An object is read setting by setting. -/
structure ReadBySlots (ofJson? : Value → Option Config) (settings : List (Setting Config)) :
    Prop where
  eq_some_iff : ∀ members config, ofJson? (.object members) = some config ↔
    keysFit (keys settings) members = true ∧
      ∀ setting ∈ settings, setting.slot? members = some (setting.get config)
  isSome_iff : ∀ members, (ofJson? (.object members)).isSome ↔
    keysFit (keys settings) members = true ∧ ∀ setting ∈ settings, (setting.slot? members).isSome

lemma ReadBySlots.of_five {s₁ s₂ s₃ s₄ s₅ : Setting Config} {ofJson? : Value → Option Config}
    (make : s₁.Content → s₂.Content → s₃.Content → s₄.Content → s₅.Content → Config)
    (hread : ∀ value, ofJson? value =
      (value.slots? (keys [s₁, s₂, s₃, s₄, s₅])).bind fun
        | [v₁, v₂, v₃, v₄, v₅] => do
          return make (← s₁.ofSlot? v₁) (← s₂.ofSlot? v₂) (← s₃.ofSlot? v₃) (← s₄.ofSlot? v₄)
            (← s₅.ofSlot? v₅)
        | _ => none)
    (hget : ∀ x₁ x₂ x₃ x₄ x₅, let config := make x₁ x₂ x₃ x₄ x₅
      s₁.get config = x₁ ∧ s₂.get config = x₂ ∧ s₃.get config = x₃ ∧ s₄.get config = x₄ ∧
        s₅.get config = x₅)
    (hmake : ∀ config, make (s₁.get config) (s₂.get config) (s₃.get config) (s₄.get config)
      (s₅.get config) = config) : ReadBySlots ofJson? [s₁, s₂, s₃, s₄, s₅] where
  eq_some_iff members config := by
    rw [hread, Value.slots?]
    split_ifs with hfit
    · rw [and_iff_right hfit]
      simp only [keys, List.map_cons, List.map_nil, Option.bind_eq_bind, Option.bind_some,
        Option.bind_eq_some_iff, Option.pure_def, Option.some_inj, List.forall_mem_cons]
      constructor
      · rintro ⟨x₁, h₁, x₂, h₂, x₃, h₃, x₄, h₄, x₅, h₅, rfl⟩
        obtain ⟨g₁, g₂, g₃, g₄, g₅⟩ := hget x₁ x₂ x₃ x₄ x₅
        rw [g₁, g₂, g₃, g₄, g₅]
        exact ⟨h₁, h₂, h₃, h₄, h₅, List.forall_mem_nil _⟩
      · rintro ⟨h₁, h₂, h₃, h₄, h₅, -⟩
        exact ⟨_, h₁, _, h₂, _, h₃, _, h₄, _, h₅, hmake config⟩
    · simp [hfit]
  isSome_iff members := by
    rw [hread, Value.slots?]
    split_ifs with hfit
    · rw [and_iff_right hfit]
      simp [keys, Option.isSome_iff_exists, Option.bind_eq_some_iff, Setting.slot?]
    · simp [hfit]

/-- Configurations are read from object texts by their known members, which tell what texts are read
and as what. Nothing else matters: not the order of the members, and no unknown one, so long as its
key is a text. -/
structure DecidedByKnown (ofJson? : Value → Option Config) (settings : List (Setting Config)) :
    Prop where
  accepted : ∀ text members, parse? text = some (.object members) →
    ((readText? ofJson? text).isSome ↔
      HasTextKeys members ∧ ∀ setting ∈ settings, setting.Fits members)
  taken : ∀ text members, parse? text = some (.object members) → ∀ config,
    readText? ofJson? text = some config →
      ∀ setting ∈ settings, setting.Taken members config
  same : ∀ text text' members members', parse? text = some (.object members) →
    parse? text' = some (.object members') → (HasTextKeys members ↔ HasTextKeys members') →
      (known settings members).Perm (known settings members') →
        readText? ofJson? text = readText? ofJson? text'
  permuted : ∀ ws ws' : List Written, ws.Perm ws' →
    readText? ofJson? (objectText ws) = readText? ofJson? (objectText ws')
  inserted : ∀ (before after : List Written) (w : Written) (name : String), w.key = some name →
    name ∉ keys settings →
      readText? ofJson? (objectText (before ++ w :: after)) =
        readText? ofJson? (objectText (before ++ after))

lemma keysFit_keys_iff : keysFit (keys settings) members = true ↔
    HasTextKeys members ∧
      ∀ setting ∈ settings, (members.map Prod.fst).count (some setting.key) ≤ 1 := by
  rw [keysFit_iff, keys, List.forall_mem_map]

lemma mem_known {setting : Setting Config} (h : setting ∈ settings) (value : Value) :
    (some setting.key, value) ∈ known settings members ↔ (some setting.key, value) ∈ members := by
  rw [known, List.mem_filter]
  refine and_iff_left (decide_eq_true ?_)
  exact List.mem_map_of_mem (List.mem_map_of_mem h)

lemma count_known {setting : Setting Config} (h : setting ∈ settings) :
    ((known settings members).map Prod.fst).count (some setting.key) =
      (members.map Prod.fst).count (some setting.key) := by
  rw [← length_filter_key, ← length_filter_key, known, List.filter_filter]
  refine congrArg List.length (List.filter_congr fun m _ => ?_)
  by_cases hkey : m.1 = some setting.key
  · have hmem : m.1 ∈ (keys settings).map some :=
      hkey ▸ List.mem_map_of_mem (List.mem_map_of_mem h)
    simp [hmem]
  · simp [hkey]

namespace ReadBySlots

variable {ofJson? : Value → Option Config} (h : ReadBySlots ofJson? settings)

include h

lemma accepted_iff : (ofJson? (.object members)).isSome ↔
    HasTextKeys members ∧ ∀ setting ∈ settings, setting.Fits members := by
  rw [h.isSome_iff, keysFit_keys_iff, and_assoc]
  refine and_congr_right fun _ => ?_
  constructor
  · exact fun ⟨honce, hslots⟩ setting hmem =>
      ⟨honce setting hmem, (Setting.typed_iff (honce setting hmem)).mpr (hslots setting hmem)⟩
  · exact fun hfits => ⟨fun setting hmem => (hfits setting hmem).once, fun setting hmem =>
      (Setting.typed_iff (hfits setting hmem).once).mp (hfits setting hmem).typed⟩

lemma taken_iff {config : Config} : ofJson? (.object members) = some config ↔
    keysFit (keys settings) members = true ∧
      ∀ setting ∈ settings, setting.Taken members config := by
  rw [h.eq_some_iff]
  refine and_congr_right fun hfit => forall₂_congr fun setting hmem => ?_
  exact (Setting.taken_iff_slot? ((keysFit_keys_iff.mp hfit).2 setting hmem)).symm

lemma congr_known {members' : List (Text × Value)}
    (htexts : HasTextKeys members ↔ HasTextKeys members')
    (hknown : (known settings members).Perm (known settings members')) :
    ofJson? (.object members) = ofJson? (.object members') := by
  have hmem : ∀ setting ∈ settings, ∀ value,
      (some setting.key, value) ∈ members ↔ (some setting.key, value) ∈ members' := by
    intro setting hsetting value
    rw [← mem_known hsetting, hknown.mem_iff, mem_known hsetting]
  have hcount : ∀ setting ∈ settings, (members.map Prod.fst).count (some setting.key) =
      (members'.map Prod.fst).count (some setting.key) := by
    intro setting hsetting
    rw [← count_known hsetting, (hknown.map _).count_eq, count_known hsetting]
  refine Option.ext fun config => ?_
  rw [h.taken_iff, h.taken_iff, keysFit_keys_iff, keysFit_keys_iff, htexts]
  refine and_congr (and_congr_right fun _ => ?_) ?_
  · exact forall₂_congr fun setting hsetting => by rw [hcount setting hsetting]
  · exact forall₂_congr fun setting hsetting => by
      simp only [Setting.taken_iff, hmem setting hsetting]

theorem decidedByKnown : DecidedByKnown ofJson? settings := by
  have hread : ∀ {text members}, parse? text = some (.object members) →
      readText? ofJson? text = ofJson? (.object members) := by
    intro text members hparse
    rw [readText?, hparse, Option.bind_some]
  refine ⟨?accepted, ?taken, ?same, ?permuted, ?inserted⟩
  case accepted =>
    intro text members hparse
    rw [hread hparse, h.accepted_iff]
  case taken =>
    intro text members hparse config hconfig
    rw [hread hparse] at hconfig
    exact (h.taken_iff.mp hconfig).2
  case same =>
    intro text text' members members' hparse hparse' htexts hknown
    rw [hread hparse, hread hparse', h.congr_known htexts hknown]
  case permuted =>
    intro ws ws' hperm
    rw [hread (parse?_objectText ws), hread (parse?_objectText ws')]
    have hmembers := hperm.map Written.member
    refine h.congr_known ?_ (hmembers.filter _)
    exact forall_congr' fun m => by rw [hmembers.mem_iff]
  case inserted =>
    intro before after w name hkey hunknown
    rw [hread (parse?_objectText _), hread (parse?_objectText _)]
    have htext : w.member.1 = some name := hkey
    refine h.congr_known ?_ (.of_eq ?_)
    · simp [HasTextKeys, or_imp, forall_and, htext]
    · have hnot : w.member.1 ∉ (keys settings).map some := by
        simpa [htext] using hunknown
      rw [known, known, List.map_append, List.map_append, List.map_cons, List.filter_append,
        List.filter_append, List.filter_cons_of_neg]
      simpa using hnot

end ReadBySlots

end Configurations

end MoodStore.Json
