import Mathlib.Data.List.Nodup

/-!
Ordered maps: entries with pairwise distinct keys, in the order in which the keys came.

A value for a key of the map takes the place of the one that is there, and one for a new key comes
last; an erased key leaves the order of all others as it is.
-/

namespace MoodStore

/-- A map that keeps its entries in the order in which their keys came. -/
structure OrderedMap (κ ν : Type) where
  entries : List (κ × ν)
  distinct : (entries.map Prod.fst).Nodup

namespace OrderedMap

variable {κ ν : Type}

def empty : OrderedMap κ ν := ⟨[], List.nodup_nil⟩

def keys (map : OrderedMap κ ν) : List κ := map.entries.map Prod.fst

def values (map : OrderedMap κ ν) : List ν := map.entries.map Prod.snd

variable [DecidableEq κ]

def get? (map : OrderedMap κ ν) (key : κ) : Option ν :=
  (map.entries.find? fun entry => entry.1 = key).map Prod.snd

/-- The entry with another value, if it is the one of this key. -/
def replaced (key : κ) (value : ν) (entry : κ × ν) : κ × ν :=
  if entry.1 = key then (key, value) else entry

lemma fst_replaced (key : κ) (value : ν) (entry : κ × ν) :
    (replaced key value entry).1 = entry.1 := by
  unfold replaced
  split
  case isTrue h => exact h.symm
  case isFalse => rfl

lemma map_fst_replaced (key : κ) (value : ν) (entries : List (κ × ν)) :
    (entries.map (replaced key value)).map Prod.fst = entries.map Prod.fst := by
  rw [List.map_map]
  exact List.map_congr_left fun entry _ => fst_replaced key value entry

/-- Gives a key this value: at the place of the key, or behind all others. -/
def insert (map : OrderedMap κ ν) (key : κ) (value : ν) : OrderedMap κ ν where
  entries :=
    if key ∈ map.keys then map.entries.map (replaced key value) else map.entries ++ [(key, value)]
  distinct := by
    split
    case isTrue =>
      rw [map_fst_replaced]
      exact map.distinct
    case isFalse h =>
      rw [List.map_append, List.nodup_append]
      refine ⟨map.distinct, by simp, fun a ha b hb heq => h ?_⟩
      have hkey : a = key := heq.trans (by simpa using hb)
      rw [← hkey]
      exact ha

def erase (map : OrderedMap κ ν) (key : κ) : OrderedMap κ ν where
  entries := map.entries.filter fun entry => entry.1 ≠ key
  distinct := map.distinct.sublist (List.filter_sublist.map _)

variable {map : OrderedMap κ ν} {key other : κ} {value : ν}

lemma get?_eq_some_iff : map.get? key = some value ↔ (key, value) ∈ map.entries := by
  constructor
  · intro h
    obtain ⟨entry, hfind, rfl⟩ := Option.map_eq_some_iff.mp h
    have hkey : entry.1 = key := by simpa using List.find?_some hfind
    rw [← hkey]
    exact List.mem_of_find?_eq_some hfind
  · intro h
    cases hfind : map.entries.find? fun entry => entry.1 = key with
    | none =>
      have hne := List.find?_eq_none.mp hfind _ h
      simp at hne
    | some entry =>
      have hkey : entry.1 = key := by simpa using List.find?_some hfind
      have hentry : entry = (key, value) :=
        List.inj_on_of_nodup_map map.distinct (List.mem_of_find?_eq_some hfind) h hkey
      rw [get?, hfind, hentry]
      rfl

lemma isSome_get?_iff : (map.get? key).isSome = true ↔ key ∈ map.keys := by
  simp [get?, keys]

lemma entries_insert_of_mem (h : key ∈ map.keys) (value : ν) :
    (map.insert key value).entries = map.entries.map (replaced key value) := by
  simp only [insert, h, if_true]

lemma entries_insert_of_not_mem (h : key ∉ map.keys) (value : ν) :
    (map.insert key value).entries = map.entries ++ [(key, value)] := by
  simp only [insert, h, if_false]

@[simp] lemma get?_insert_self (map : OrderedMap κ ν) (key : κ) (value : ν) :
    (map.insert key value).get? key = some value := by
  rw [get?_eq_some_iff]
  by_cases h : key ∈ map.keys
  · rw [entries_insert_of_mem h]
    obtain ⟨entry, hentry, hkey⟩ := List.mem_map.mp h
    exact List.mem_map.mpr ⟨entry, hentry, by simp [replaced, hkey]⟩
  · rw [entries_insert_of_not_mem h]
    exact List.mem_append_right _ (List.mem_singleton_self _)

lemma get?_insert_of_ne (h : other ≠ key) (map : OrderedMap κ ν) (value : ν) :
    (map.insert key value).get? other = map.get? other := by
  refine Option.ext fun found => ?_
  rw [get?_eq_some_iff, get?_eq_some_iff]
  by_cases hkey : key ∈ map.keys
  · rw [entries_insert_of_mem hkey, List.mem_map]
    constructor
    · rintro ⟨entry, hentry, heq⟩
      have hne : entry.1 ≠ key := by
        rw [← fst_replaced key value entry, heq]
        exact h
      rw [replaced, if_neg hne] at heq
      exact heq ▸ hentry
    · intro hentry
      exact ⟨_, hentry, if_neg h⟩
  · rw [entries_insert_of_not_mem hkey]
    simp [h]

end OrderedMap

end MoodStore
