import Mathlib.Data.List.Count
import MoodStore.Json.Decode

/-!
The members of an object by their keys.

A key that occurs once has one value, which is the one that is looked up. So looking up depends on
which members there are only, and not on their order.
-/

namespace MoodStore.Json

open Value (member? keysFit)

variable {members : List (Text × Value)} {key : String} {value : Value}

/-- No key escapes half of a surrogate pair. -/
def HasTextKeys (members : List (Text × Value)) : Prop := ∀ m ∈ members, m.1 ≠ none

lemma length_filter_key (members : List (Text × Value)) (key : String) :
    (members.filter fun m => m.1 == some key).length = (members.map Prod.fst).count (some key) := by
  rw [List.count, List.countP_map, List.countP_eq_length_filter]
  rfl

lemma keysFit_iff {fields : List String} : keysFit fields members = true ↔
    HasTextKeys members ∧ ∀ field ∈ fields, (members.map Prod.fst).count (some field) ≤ 1 := by
  simp [keysFit, HasTextKeys, length_filter_key, Option.isSome_iff_ne_none]

lemma mem_of_member? (h : member? members key = some value) : (some key, value) ∈ members := by
  obtain ⟨m, hm, rfl⟩ := Option.map_eq_some_iff.mp h
  have hkey : m.1 = some key := by simpa using List.find?_some hm
  rw [← hkey]
  exact List.mem_of_find?_eq_some hm

lemma member?_eq_none (h : ∀ value, (some key, value) ∉ members) : member? members key = none := by
  cases hm : member? members key with
  | none => rfl
  | some value => exact absurd (mem_of_member? hm) (h value)

lemma member?_of_once (honce : (members.map Prod.fst).count (some key) ≤ 1)
    (h : (some key, value) ∈ members) : member? members key = some value := by
  induction members with
  | nil => cases h
  | cons m members ih =>
    rw [List.map_cons, List.count_cons] at honce
    rw [member?, List.find?_cons]
    rcases List.mem_cons.mp h with rfl | hrest
    · simp
    · -- the key occurs behind `m`, so it is not that of `m`
      have hpos : 0 < (members.map Prod.fst).count (some key) :=
        List.count_pos_iff.mpr (List.mem_map_of_mem hrest)
      have hne : (m.1 == some key) = false := by
        by_contra hkey
        rw [Bool.not_eq_false] at hkey
        rw [if_pos hkey] at honce
        omega
      rw [hne]
      exact ih (by omega) hrest

lemma eq_of_once (honce : (members.map Prod.fst).count (some key) ≤ 1) {other : Value}
    (h : (some key, value) ∈ members) (hother : (some key, other) ∈ members) : other = value := by
  have hsame := (member?_of_once honce hother).symm.trans (member?_of_once honce h)
  exact Option.some_inj.mp hsame

end MoodStore.Json
