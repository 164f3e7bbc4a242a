import MoodStore.Proofs.Account.Ledger

/-!
Moods as ordered maps.

The moods of an owner are an ordered map from folded names. A mood keeps the name that it was
created with and its place for as long as it is there, and what is listed is the map followed by
the built-in moods. Whether a mood can be deleted hangs on the lines that refer to it; nothing else
about conversations matters to the map, and calls about conversations leave it as it is.
-/

namespace MoodStore

open Listing (Page Query)

/-- The moods of an owner by their folded names. -/
abbrev MoodMap : Type := OrderedMap String Mood

namespace MoodMap

/-- Writes a mood. One that is there keeps its name. -/
def write (moods : MoodMap) (name eyes tongue : String) : MoodWrite × MoodMap :=
  match moods.get? (foldCase name) with
  | none =>
    let mood : Mood := .owned name eyes tongue
    (⟨mood, .created⟩, moods.insert (foldCase name) mood)
  | some old =>
    let mood : Mood := { old with eyes, tongue }
    let outcome : WriteOutcome :=
      if old.eyes ≠ eyes ∨ old.tongue ≠ tongue then .updated else .unchanged
    (⟨mood, outcome⟩, moods.insert (foldCase name) mood)

/-- What an owner sees: the owned moods, then the built-in ones. -/
def listed (moods : MoodMap) (builtins : Catalog Mood) : List Mood :=
  moods.values ++ builtins.entries

def list (moods : MoodMap) (builtins : Catalog Mood) (query : Query) : Except Error (Page Mood) :=
  Listing.answer (moods.listed builtins)
    (fun name => (moods.listed builtins).findIdx? (Account.hasKey (foldCase name))) query

def get (moods : MoodMap) (builtins : Catalog Mood) (name : String) : Except Error Mood :=
  match (moods.listed builtins).find? (Account.hasKey (foldCase name)) with
  | some mood => .ok mood
  | none => .error .notFound

def set (moods : MoodMap) (builtins : Catalog Mood) (name eyes tongue : String) :
    Except Error MoodWrite × MoodMap :=
  if builtins.contains name then (.error (.protectedEntity name), moods)
  else (.ok (moods.write name eyes tongue).1, (moods.write name eyes tongue).2)

def delete (moods : MoodMap) (builtins : Catalog Mood) (uses : String → ℕ) (name : String) :
    Except Error Unit × MoodMap :=
  if builtins.contains name then (.error (.protectedEntity name), moods)
  else if moods.get? (foldCase name) = none then (.error .notFound, moods)
  else if uses (foldCase name) = 0 then (.ok (), moods.erase (foldCase name))
  else (.error (.hasDependents name "lines" (uses (foldCase name))), moods)

/-- What a call about moods is answered, and the map that a call leaves. -/
def perform (moods : MoodMap) (builtins : Catalog Mood) (uses : String → ℕ) :
    Call → Option (Except Error Reply) × MoodMap
  | .listMoods _ query => (some ((moods.list builtins query).map .moods), moods)
  | .getMood _ name => (some ((moods.get builtins name).map .mood), moods)
  | .setMood _ name eyes tongue =>
    (some ((moods.set builtins name eyes tongue).1.map .moodWrite),
      (moods.set builtins name eyes tongue).2)
  | .deleteMood _ name =>
    (some ((moods.delete builtins uses name).1.map fun _ => .done),
      (moods.delete builtins uses name).2)
  | _ => (none, moods)

/-! ### Maps of accounts -/

/-- The map holds the moods of the account in their order. -/
def Charts (moods : MoodMap) (account : Account) : Prop :=
  moods.entries = account.moods.map fun mood => (foldCase mood.name, mood)

end MoodMap

namespace Account

/-- No mood of the account has a reserved name. -/
def Unreserved (account : Account) (builtins : Catalog Mood) : Prop :=
  ∀ mood ∈ account.moods, builtins.contains mood.name = false

section Moods

variable (account : Account) (builtins : Catalog Mood) (newId? : Option String)
  (home id heading : String) (line : NewLine)

@[simp] lemma createConversation_moods :
    (account.createConversation newId? heading).2.moods = account.moods := by
  cases newId? <;> rfl

@[simp] lemma deleteConversation_moods :
    (account.deleteConversation id).2.moods = account.moods := by
  unfold deleteConversation
  split <;> rfl

@[simp] lemma createLine_moods :
    (account.createLine builtins newId? home line).2.moods = account.moods := by
  unfold createLine
  split
  · rfl
  · split
    · rfl
    · cases newId? <;> rfl

@[simp] lemma deleteLine_moods : (account.deleteLine home id).2.moods = account.moods := by
  unfold deleteLine
  split <;> rfl

end Moods

end Account

namespace MoodMap

variable {moods : MoodMap} {account : Account} {builtins : Catalog Mood}

lemma charts_empty : Charts .empty .empty := rfl

namespace Charts

variable (charts : moods.Charts account)

include charts

lemma values_eq : moods.values = account.moods := by
  rw [OrderedMap.values, charts, List.map_map]
  exact List.map_id _

lemma get?_eq (key : String) : moods.get? key = account.mood? key := by
  rw [OrderedMap.get?, charts, List.find?_map, Option.map_map]
  exact Option.map_id'

end Charts

/-! ### Listing and finding -/

lemma hasKey_eq_false (unreserved : account.Unreserved builtins) {name : String}
    (hname : builtins.contains name = true) :
    ∀ mood ∈ account.moods, Account.hasKey (foldCase name) mood = false := by
  intro mood hmood
  rw [Account.hasKey, beq_eq_false_iff_ne]
  intro hkey
  have hfree := unreserved mood hmood
  rw [Catalog.contains_congr hkey, hname] at hfree
  exact Bool.noConfusion hfree

namespace Charts

variable (charts : moods.Charts account) (unreserved : account.Unreserved builtins)

include charts unreserved

lemma find?_listed (name : String) :
    (moods.listed builtins).find? (Account.hasKey (foldCase name)) =
      (account.meaning? builtins name).map Prod.fst := by
  have hbuiltin : builtins.entries.find? (Account.hasKey (foldCase name)) = builtins.get? name :=
    (builtins.get?_eq_find? name).symm
  rw [listed, charts.values_eq, List.find?_append, hbuiltin, Account.meaning?]
  cases hget : builtins.get? name with
  | none =>
    rw [Option.or_none, Option.map_map]
    exact Option.map_id'.symm
  | some mood =>
    have hname : builtins.contains name = true := by
      rw [Catalog.contains_eq_isSome_get?, hget]
      rfl
    have hnone : account.moods.find? (Account.hasKey (foldCase name)) = none :=
      List.find?_eq_none.mpr fun mood hmood => by
        rw [hasKey_eq_false unreserved hname mood hmood]
        exact Bool.false_ne_true
    rw [hnone, Option.none_or]
    rfl

lemma findIdx?_listed (name : String) :
    (moods.listed builtins).findIdx? (Account.hasKey (foldCase name)) =
      account.moodIndex? builtins name := by
  have hbuiltin : builtins.entries.findIdx? (Account.hasKey (foldCase name)) =
      builtins.position? name := rfl
  rw [listed, charts.values_eq, List.findIdx?_append, hbuiltin, Account.moodIndex?]
  cases hposition : builtins.position? name with
  | none => exact Option.or_none
  | some index =>
    have hname : builtins.contains name = true := by
      rw [Catalog.contains, hposition]
      rfl
    rw [List.findIdx?_eq_none_iff.mpr (hasKey_eq_false unreserved hname), Option.none_or,
      Option.map_some, Nat.add_comm]

lemma list_eq (query : Query) : moods.list builtins query = account.listMoods builtins query := by
  rw [list, funext (charts.findIdx?_listed unreserved), listed, charts.values_eq]
  rfl

lemma get_eq (name : String) : moods.get builtins name = account.getMood builtins name := by
  rw [get, charts.find?_listed unreserved, Account.getMood]
  cases account.meaning? builtins name <;> rfl

end Charts

/-! ### Writing and deleting -/

namespace Charts

variable (charts : moods.Charts account)

include charts

lemma write_eq (name eyes tongue : String) :
    (moods.write name eyes tongue).1 = (account.writeMood name eyes tongue).1 ∧
      (moods.write name eyes tongue).2.Charts (account.writeMood name eyes tongue).2 := by
  have hget := charts.get?_eq (foldCase name)
  cases hmood : account.mood? (foldCase name) with
  | none =>
    rw [hmood] at hget
    have hnew : foldCase name ∉ moods.keys := by
      rw [← OrderedMap.isSome_get?_iff, hget]
      exact Bool.false_ne_true
    simp only [write, hget, Account.writeMood, hmood, true_and]
    rw [Charts, OrderedMap.entries_insert_of_not_mem hnew, charts, List.map_append]
    rfl
  | some old =>
    rw [hmood] at hget
    have hkey : foldCase name ∈ moods.keys := by
      rw [← OrderedMap.isSome_get?_iff, hget]
      rfl
    simp only [write, hget, Account.writeMood, hmood]
    refine ⟨?_, ?_⟩
    · -- a write that changes nothing is told from one that does
      by_cases heyes : old.eyes = eyes <;> by_cases htongue : old.tongue = tongue <;>
        simp [heyes, htongue]
    · rw [Charts, OrderedMap.entries_insert_of_mem hkey, charts, List.map_map, List.map_map]
      refine List.map_congr_left fun mood hmem => ?_
      by_cases hname : foldCase mood.name = foldCase name
      · -- the one mood with this key is the one that was found
        have hfound : moods.get? (foldCase name) = some mood := by
          rw [OrderedMap.get?_eq_some_iff, charts, ← hname]
          exact List.mem_map_of_mem hmem
        obtain rfl := Option.some_inj.mp (hget.symm.trans hfound)
        simp [OrderedMap.replaced, Account.repainted, Account.hasKey, hname]
      · simp [OrderedMap.replaced, Account.repainted, Account.hasKey, hname]

lemma set_eq (builtins : Catalog Mood) (name eyes tongue : String) :
    (moods.set builtins name eyes tongue).1 = (account.setMood builtins name eyes tongue).1 ∧
      (moods.set builtins name eyes tongue).2.Charts
        (account.setMood builtins name eyes tongue).2 := by
  obtain ⟨hwrite, hleft⟩ := charts.write_eq name eyes tongue
  rw [set, Account.setMood]
  split
  · exact ⟨rfl, charts⟩
  · exact ⟨congrArg Except.ok hwrite, hleft⟩

lemma delete_eq (builtins : Catalog Mood) {uses : String → ℕ}
    (huses : ∀ key, uses key = account.uses key) (name : String) :
    (moods.delete builtins uses name).1 = (account.deleteMood builtins name).1 ∧
      (moods.delete builtins uses name).2.Charts (account.deleteMood builtins name).2 := by
  rw [delete, Account.deleteMood, charts.get?_eq, huses]
  split
  · exact ⟨rfl, charts⟩
  · split
    · exact ⟨rfl, charts⟩
    · split
      · refine ⟨rfl, ?_⟩
        simp only [Charts, OrderedMap.erase, ne_eq, decide_not]
        rw [charts, List.filter_map]
        rfl
      · exact ⟨rfl, charts⟩

end Charts

/-! ### Calls -/

/-- A call is answered from the map, if it is about moods, and leaves the map of the account that it
leaves. -/
lemma Charts.perform (charts : moods.Charts account) (unreserved : account.Unreserved builtins)
    {uses : String → ℕ} (huses : ∀ key, uses key = account.uses key) (newId? : Option String)
    (call : Call) :
    (∀ answer ∈ (moods.perform builtins uses call).1,
      (account.perform builtins newId? call).1 = answer) ∧
      (moods.perform builtins uses call).2.Charts (account.perform builtins newId? call).2 := by
  cases call with
  | listMoods owner query =>
    refine ⟨fun answer hanswer => ?_, charts⟩
    rw [← Option.some_inj.mp hanswer, charts.list_eq unreserved]
    rfl
  | getMood owner name =>
    refine ⟨fun answer hanswer => ?_, charts⟩
    rw [← Option.some_inj.mp hanswer, charts.get_eq unreserved]
    rfl
  | setMood owner name eyes tongue =>
    obtain ⟨hset, hleft⟩ := charts.set_eq builtins name eyes tongue
    refine ⟨fun answer hanswer => ?_, hleft⟩
    rw [← Option.some_inj.mp hanswer, hset]
    rfl
  | deleteMood owner name =>
    obtain ⟨hdelete, hleft⟩ := charts.delete_eq builtins huses name
    refine ⟨fun answer hanswer => ?_, hleft⟩
    rw [← Option.some_inj.mp hanswer, hdelete]
    rfl
  | _ =>
    refine ⟨fun answer hanswer => absurd hanswer (by simp [MoodMap.perform]), ?_⟩
    simpa [MoodMap.perform, Account.perform, Charts] using charts

end MoodMap

/-! ### Runs -/

/-- The number of lines that refer to the owner's mood with this key. -/
def Database.uses (db : Database) (owner key : String) : ℕ :=
  db.rows.elim 0 fun rows => rows.countLinesUsing owner key

/-- Throughout a run, each call about moods is answered from the map of its owner, and each call
leaves that map as it says and the maps of all others as they are. -/
def MoodMap.Serve (maps : String → MoodMap) : List Turn → Database → Prop
  | [], _ => True
  | turn :: turns, db =>
    let owner := turn.call.owner
    let served := (maps owner).perform turn.builtins (db.uses owner) turn.call
    (∀ answer ∈ served.1, turn.answer db = answer) ∧
      Serve (Function.update maps owner served.2) turns (turn.after db)

variable {builtins : Catalog Mood} {rows : Rows} {maps : String → MoodMap}

lemma Rows.Sound.account_unreserved (h : rows.Sound {builtins}) (owner : String) :
    (rows.account owner).Unreserved builtins := by
  intro mood hmood
  obtain ⟨row, hrow, rfl⟩ := List.mem_map.mp hmood
  obtain ⟨catalog, rfl, hfree⟩ := h.unreserved row (Rows.mem_moodsOf.mp hrow).1
  exact hfree

lemma MoodMap.serve_of_charts (turns : List Turn) {db : Database}
    (holds : db.Holds {builtins} rows) (allowed : ∀ turn ∈ turns, turn.builtins = builtins)
    (charts : ∀ owner, (maps owner).Charts (rows.account owner)) : Serve maps turns db := by
  induction turns generalizing rows maps db with
  | nil => trivial
  | cons turn turns ih =>
    obtain rfl := allowed turn List.mem_cons_self
    obtain ⟨rows', holds', hanswer, hleaves, -⟩ := turn.follows (Set.mem_singleton _) holds
    have huses : ∀ key, db.uses turn.call.owner key = (rows.account turn.call.owner).uses key := by
      intro key
      rw [Database.uses, holds.1]
      exact holds.2.countLinesUsing_eq _ _
    obtain ⟨hserved, hleft⟩ := (charts turn.call.owner).perform
      (holds.2.account_unreserved _) huses (turn.newId? rows) turn.call
    refine ⟨fun answer hmem => hanswer.trans (hserved answer hmem), ih holds'
      (fun other hother => allowed other (List.mem_cons_of_mem _ hother)) fun owner => ?_⟩
    by_cases hown : owner = turn.call.owner
    · subst hown
      rw [Function.update_self, hleaves.own]
      exact hleft
    · rw [Function.update_of_ne hown, hleaves.others owner hown]
      exact charts owner

/-- **Moods are ordered maps.** In every run of calls of any owners on a new store, through services
with the same built-in moods, calls about moods are answered from one map for each owner, which is
empty at first. -/
theorem moods_are_ordered_maps (builtins : Catalog Mood) (calls : List (Call × (ℕ → UInt64))) :
    MoodMap.Serve (fun _ => .empty) (Turn.through builtins calls) .fresh :=
  MoodMap.serve_of_charts _ holds_fresh (fun _ => Turn.builtins_of_mem_through)
    fun _ => MoodMap.charts_empty

/-- A mood that is written again under another spelling keeps its name and its place. -/
example :
    let moods := (MoodMap.write .empty "Calm" "oo" "  ").2
    let moods := (moods.write "wild" "@@" "U ").2
    (moods.write "CALM" "uu" "  ").1 = ⟨.owned "Calm" "uu" "  ", .updated⟩ ∧
      (moods.write "CALM" "uu" "  ").2.values =
        [.owned "Calm" "uu" "  ", .owned "wild" "@@" "U "] := by
  decide

end MoodStore
