import MoodStore.Proofs.Service.Meanings
import MoodStore.Proofs.Text.Folding

/-!
Names in either case.

However the ASCII letters of a name are spelled, and whatever stands between them, it is one name:
it is found at the same index of every catalog, it is protected where a built-in mood has it, and it
means the same mood of every owner.
-/

namespace MoodStore

variable {ρ : Type}

namespace Catalog

variable {α : Type} [Entry α] {catalog : Catalog α} {entry : α}

lemma exists_position?_of_mem (h : entry ∈ catalog.entries) :
    ∃ index < catalog.entries.length, catalog.position? (Entry.id entry) = some index := by
  cases hposition : catalog.position? (Entry.id entry) with
  | some index =>
    obtain ⟨hlt, -⟩ := position?_eq_some hposition
    exact ⟨index, hlt, rfl⟩
  | none => exact absurd rfl (position?_eq_none_iff.mp hposition entry h)

end Catalog

namespace CaseVariant

variable {name variant : String} (h : CaseVariant name variant)

include h

lemma position?_eq {α : Type} [Entry α] (catalog : Catalog α) :
    catalog.position? variant = catalog.position? name := Catalog.position?_congr h.foldCase_eq

lemma meaning_eq (builtins : Catalog Mood) (owner : String) :
    Moods.meaning builtins owner variant = Moods.meaning builtins owner name := by
  funext db
  simp only [Moods.meaning, Catalog.get?, h.position?_eq, h.foldCase_eq]

lemma getMood_eq (service : Service ρ) (owner : String) :
    service.getMood owner variant = service.getMood owner name := by
  have hget : Moods.get service.builtins owner variant = Moods.get service.builtins owner name := by
    funext db
    simp only [Moods.get, h.meaning_eq]
  simp only [Service.getMood, Call.name, hget]

lemma deleteMood_database (service : Service ρ) (owner : String) (world : World ρ) :
    (service.deleteMood owner variant world).2.database =
      (service.deleteMood owner name world).2.database := by
  simp only [Service.deleteMood, Service.logged_database, Moods.delete_database,
    Catalog.contains_congr h.foldCase_eq, h.foldCase_eq]

end CaseVariant

/-- **Names in either case are one name.** Folding a name again changes nothing, and it does not
depend on the case of ASCII letters, whatever characters stand between them. So every spelling of an
entry's name is found at the same index of its catalog, and it is protected where the entry is a
built-in mood; reading and deleting a mood do the same for every spelling of its name; and in every
store that services can leave, all spellings of a name mean the same mood of an owner. -/
theorem names_in_either_case_are_one_name :
    (∀ name, foldCase (foldCase name) = foldCase name) ∧
      (∀ name variant, CaseVariant name variant → foldCase variant = foldCase name) ∧
      (∀ {α : Type} [Entry α] (catalog : Catalog α), ∀ entry ∈ catalog.entries,
        ∃ index < catalog.entries.length, ∀ variant, CaseVariant (Entry.id entry) variant →
          catalog.position? variant = some index ∧ catalog.contains variant = true) ∧
      (∀ {ρ : Type} (service : Service ρ), ∀ mood ∈ service.builtins.entries, ∀ variant,
        CaseVariant mood.name variant → ∀ owner world,
          (∀ eyes tongue, (service.setMood owner variant eyes tongue world).1 =
              .error (.protectedEntity variant) ∧
            (service.setMood owner variant eyes tongue world).2.database = world.database) ∧
          (service.deleteMood owner variant world).1 = .error (.protectedEntity variant) ∧
            (service.deleteMood owner variant world).2.database = world.database) ∧
      (∀ {ρ : Type} (service : Service ρ) owner name variant, CaseVariant name variant →
        service.getMood owner variant = service.getMood owner name ∧
          ∀ world, (service.deleteMood owner variant world).2.database =
            (service.deleteMood owner name world).2.database) ∧
      ∀ {ρ : Type} {catalogs : Set (Catalog Mood)} {world : World ρ},
        Reachable catalogs world.database → ∀ (service : Service ρ) owner name,
          ∃ rows meaning, world.database.rows = some rows ∧ ∀ variant, CaseVariant name variant →
            Moods.Verdict service.builtins rows owner variant meaning ∧
              GoesBy service world rows owner variant meaning := by
  have hfound : ∀ {α : Type} [Entry α] (catalog : Catalog α), ∀ entry ∈ catalog.entries,
      ∃ index < catalog.entries.length, ∀ variant, CaseVariant (Entry.id entry) variant →
        catalog.position? variant = some index ∧ catalog.contains variant = true := by
    intro α _ catalog entry hentry
    obtain ⟨index, hlt, hindex⟩ := Catalog.exists_position?_of_mem hentry
    refine ⟨index, hlt, fun variant hvariant => ?_⟩
    have hposition := (hvariant.position?_eq catalog).trans hindex
    exact ⟨hposition, by rw [Catalog.contains, hposition, Option.isSome_some]⟩
  refine ⟨foldCase_foldCase, fun _ _ h => h.foldCase_eq, hfound, ?_, ?_, ?_⟩
  · intro ρ service mood hmood variant hvariant owner world
    obtain ⟨index, -, hvariants⟩ := hfound service.builtins mood hmood
    exact service.writes_of_contains (hvariants variant hvariant).2 owner world
  · exact fun service owner name variant h =>
      ⟨h.getMood_eq service owner, h.deleteMood_database service owner⟩
  · intro ρ catalogs world reachable service owner name
    obtain ⟨rows, holds⟩ := reachable.holds
    obtain ⟨meaning, hmeaning⟩ := holds.exists_verdict service.builtins owner name
    have verdict : Moods.Verdict service.builtins rows owner name meaning := (hmeaning _).mpr rfl
    refine ⟨rows, meaning, holds.1, fun variant h => ?_⟩
    exact ⟨verdict.congr h.foldCase_eq, goesBy holds service (verdict.congr h.foldCase_eq)⟩

/-- A capital sigma inside a word, looked for across a full stop, and one at the end of a word: the
case of the letters around it does not matter. -/
theorem names_with_sigma_in_either_case :
    let calm : Mood := .builtin "AΣ.B" "^^" "  "
    let builtins : Catalog Mood := ⟨[calm]⟩
    let service : Service Unit := ⟨builtins, pure 0⟩
    let paint : Turn := ⟨builtins, .setMood "ann" "KΣ" "oo" "U ", fun _ => 0⟩
    let world : World Unit := ⟨paint.after .fresh, [], ()⟩
    CaseVariant "AΣ.B" "aΣ.b" ∧ foldCase "aΣ.b" = "aσ.b" ∧
      builtins.position? "aΣ.b" = some 0 ∧
      (service.deleteMood "ann" "aΣ.b" world).1 = .error (.protectedEntity "aΣ.b") ∧
      CaseVariant "KΣ" "kΣ" ∧ foldCase "kΣ" = "kς" ∧ Reachable {builtins} world.database ∧
      (service.getMood "ann" "kΣ" world).1 = .ok (.owned "KΣ" "oo" "U ") := by
  intro calm builtins service paint world
  have hmember : paint.builtins ∈ ({builtins} : Set (Catalog Mood)) := Set.mem_singleton _
  have hdatabase : world.database = paint.after .fresh := by with_reducible rfl
  have reachable : Reachable {builtins} world.database := hdatabase ▸ paint.reaches hmember .fresh
  have hinner : CaseVariant calm.name "aΣ.b" := by decide
  have hfinal : CaseVariant "KΣ" "kΣ" := by decide
  have hmem : calm ∈ builtins.entries := List.mem_singleton_self calm
  obtain ⟨-, hfold, hfound, hprotected, -, hmeans⟩ := names_in_either_case_are_one_name
  obtain ⟨index, hlt, hvariants⟩ := hfound builtins calm hmem
  obtain rfl : index = 0 := Nat.lt_one_iff.mp hlt
  obtain ⟨rows, meaning, -, hall⟩ := hmeans reachable service "ann" "KΣ"
  have hname : (service.getMood "ann" "KΣ" world).1 = .ok (.owned "KΣ" "oo" "U ") := by
    decide +kernel
  refine ⟨hinner, (hfold _ _ hinner).trans (by decide +kernel), (hvariants _ hinner).1,
    (hprotected service calm hmem _ hinner "ann" world).2.1, hfinal,
    (hfold _ _ hfinal).trans (by decide +kernel), reachable, ?_⟩
  rw [(hall "kΣ" hfinal).2.get, ← (hall "KΣ" rfl).2.get, hname]

end MoodStore
