import Mathlib.Data.List.Nodup
import MoodStore.Catalog

/-!
Looking names up in a catalog.

Only the folded name counts, and the first entry that has it is found. Where no two entries share a
folded name, every entry is found by its own.
-/

namespace MoodStore.Catalog

variable {α : Type} [Entry α] {catalog : Catalog α}

/-- No two entries share a folded id. -/
def Distinct (catalog : Catalog α) : Prop :=
  (catalog.entries.map fun entry => foldCase (Entry.id entry)).Nodup

instance (catalog : Catalog α) : Decidable catalog.Distinct :=
  inferInstanceAs (Decidable (List.Nodup _))

lemma position?_congr {a b : String} (h : foldCase a = foldCase b) :
    catalog.position? a = catalog.position? b := by
  simp only [position?, h]

lemma contains_congr {a b : String} (h : foldCase a = foldCase b) :
    catalog.contains a = catalog.contains b := by
  simp only [contains, position?_congr h]

lemma position?_eq_some {id : String} {index : ℕ} (h : catalog.position? id = some index) :
    ∃ hlt : index < catalog.entries.length,
      foldCase (Entry.id catalog.entries[index]) = foldCase id := by
  obtain ⟨hlt, hfound, -⟩ := List.findIdx?_eq_some_iff_getElem.mp h
  exact ⟨hlt, by simpa using hfound⟩

lemma get?_eq_some {id : String} {entry : α} (h : catalog.get? id = some entry) :
    foldCase (Entry.id entry) = foldCase id := by
  obtain ⟨index, hindex, hentry⟩ := Option.bind_eq_some_iff.mp h
  obtain ⟨hlt, hfold⟩ := position?_eq_some hindex
  rw [List.getElem?_eq_getElem hlt, Option.some_inj] at hentry
  rwa [hentry] at hfold

lemma get?_eq_find? (catalog : Catalog α) (id : String) :
    catalog.get? id =
      catalog.entries.find? fun entry => foldCase (Entry.id entry) == foldCase id :=
  List.find?_eq_bind_findIdx?_getElem?.symm

lemma get?_eq_some_iff {id : String} {entry : α} :
    catalog.get? id = some entry ↔ ∃ before after, catalog.entries = before ++ entry :: after ∧
      foldCase (Entry.id entry) = foldCase id ∧
      ∀ other ∈ before, foldCase (Entry.id other) ≠ foldCase id := by
  rw [get?_eq_find?, List.find?_eq_some_iff_append]
  simp only [beq_iff_eq, Bool.not_eq_true', beq_eq_false_iff_ne]
  constructor
  · rintro ⟨named, before, after, entries, first⟩
    exact ⟨before, after, entries, named, first⟩
  · rintro ⟨before, after, entries, named, first⟩
    exact ⟨named, before, after, entries, first⟩

lemma position?_eq_none_iff {id : String} : catalog.position? id = none ↔
    ∀ entry ∈ catalog.entries, foldCase (Entry.id entry) ≠ foldCase id := by
  simp only [position?, List.findIdx?_eq_none_iff, beq_eq_false_iff_ne]

lemma get?_eq_none_iff {id : String} :
    catalog.get? id = none ↔
      ∀ entry ∈ catalog.entries, foldCase (Entry.id entry) ≠ foldCase id := by
  simp only [get?_eq_find?, List.find?_eq_none, beq_iff_eq, ne_eq]

lemma contains_eq_isSome_get? (catalog : Catalog α) (id : String) :
    catalog.contains id = (catalog.get? id).isSome := by
  unfold contains get?
  cases hindex : catalog.position? id with
  | none => rfl
  | some index =>
    obtain ⟨hlt, -⟩ := position?_eq_some hindex
    simp [hlt]

/-- The entry that a name finds has a reserved name itself. -/
lemma contains_of_get? {id : String} {entry : α} (h : catalog.get? id = some entry) :
    catalog.contains (Entry.id entry) = true := by
  rw [contains_congr (get?_eq_some h), contains_eq_isSome_get?, h]
  rfl

lemma Distinct.position?_id (h : catalog.Distinct) {index : ℕ}
    (hlt : index < catalog.entries.length) :
    catalog.position? (Entry.id catalog.entries[index]) = some index := by
  obtain ⟨found, hfound⟩ :
      ∃ found, catalog.position? (Entry.id catalog.entries[index]) = some found := by
    rw [← Option.isSome_iff_exists, position?, List.findIdx?_isSome, List.any_eq_true]
    exact ⟨_, List.getElem_mem hlt, by simp⟩
  obtain ⟨hlt', hfold⟩ := position?_eq_some hfound
  rw [hfound]
  let names := catalog.entries.map fun entry => foldCase (Entry.id entry)
  have hi : found < names.length := by simpa [names] using hlt'
  have hj : index < names.length := by simpa [names] using hlt
  have hnames : names[found] = names[index] := by simpa [names] using hfold
  rw [h.getElem_inj_iff.mp hnames]

end MoodStore.Catalog
