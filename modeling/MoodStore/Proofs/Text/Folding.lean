import Mathlib.Tactic.Common
import MoodStore.Text.Fold

/-!
Folding is a normal form.

No character of a folded text has a lowercase other than itself, and none is a capital sigma, so
that folding again changes nothing. Nor does the case of the ASCII letters matter: where a capital
sigma stands is the only context that counts, and it asks only which characters are cased and which
are looked through, as which both cases of a letter count the same.
-/

namespace MoodStore.Text

/-! ### Small characters -/

namespace Lowercase

/-- The character has no lowercase but itself. -/
structure IsSmall (c : Char) : Prop where
  image : image? c.toNat runs = none
  notDotted : c.toNat ≠ 0x130

lemma image?_eq_some {c n : ℕ} {table : List (ℕ × ℕ × ℕ × ℕ)} (h : image? c table = some n) :
    ∃ first last step target, (first, last, step, target) ∈ table ∧ first ≤ c ∧ c ≤ last ∧
      (c - first) % step = 0 ∧ n = target + (c - first) := by
  induction table with
  | nil => cases h
  | cons run table ih =>
    obtain ⟨first, last, step, target⟩ := run
    rw [image?] at h
    split_ifs at h with hheld
    · exact ⟨first, last, step, target, List.mem_cons_self, hheld.1, hheld.2.1, hheld.2.2,
        (Option.some_inj.mp h).symm⟩
    · obtain ⟨first, last, step, target, hmem, hrest⟩ := ih h
      exact ⟨first, last, step, target, List.mem_cons_of_mem _ hmem, hrest⟩

lemma image?_eq_none {c : ℕ} {table : List (ℕ × ℕ × ℕ × ℕ)}
    (h : ∀ run ∈ table, ¬(run.1 ≤ c ∧ c ≤ run.2.1 ∧ (c - run.1) % run.2.2.1 = 0)) :
    image? c table = none := by
  induction table with
  | nil => rfl
  | cons run table ih =>
    rw [image?, if_neg (h run List.mem_cons_self)]
    exact ih fun other hother => h other (List.mem_cons_of_mem run hother)

/-- No target of the first run is in the second: they lie before it, behind it or in its gaps. -/
def misses (run other : ℕ × ℕ × ℕ × ℕ) : Bool :=
  Nat.ble (run.2.2.2 + (run.2.1 - run.1) + 1) other.1 || Nat.ble (other.2.1 + 1) run.2.2.2 ||
    (Nat.beq other.2.2.1 2 && (Nat.beq run.2.2.1 2 || Nat.beq run.1 run.2.1) &&
      Nat.beq ((run.2.2.2 + other.1) % 2) 1)

/-- The targets of the run are characters, and `U+0130` is not one of them. -/
def hits (run : ℕ × ℕ × ℕ × ℕ) : Bool :=
  let high := run.2.2.2 + (run.2.1 - run.1)
  (Nat.ble (high + 1) 0x130 || Nat.ble 0x131 run.2.2.2) &&
    (Nat.ble (high + 1) 0xD800 || (Nat.ble 0xE000 run.2.2.2 && Nat.ble (high + 1) 0x110000))

lemma runs_miss : (runs.all fun run => runs.all fun other => misses run other) = true := by
  decide +kernel

lemma runs_hit : runs.all hits = true := by
  decide +kernel

/-- Every run leads out of all runs. -/
lemma isSmall_of_image? {c n : ℕ} (h : image? c runs = some n) : IsSmall (Char.ofNat n) := by
  obtain ⟨first, last, step, target, hrun, hfirst, hlast, hstep, rfl⟩ := image?_eq_some h
  have hhits := List.all_eq_true.mp runs_hit _ hrun
  simp only [hits, Bool.and_eq_true, Bool.or_eq_true, Nat.ble_eq] at hhits
  have hvalid : (target + (c - first)).isValidChar := by
    unfold Nat.isValidChar
    omega
  have hchar : (Char.ofNat (target + (c - first))).toNat = target + (c - first) := by
    rw [Char.ofNat, dif_pos hvalid]
    rfl
  constructor
  · rw [hchar]
    refine image?_eq_none fun other hother => ?_
    have hmisses := List.all_eq_true.mp (List.all_eq_true.mp runs_miss _ hrun) other hother
    simp only [misses, Bool.and_eq_true, Bool.or_eq_true, Nat.ble_eq, Nat.beq_eq] at hmisses
    rintro ⟨hlow, hhigh, hgap⟩
    -- targets before the run, behind it, or in its gaps
    rcases hmisses with (hbefore | hbehind) | ⟨⟨htwo, hrun'⟩, hodd⟩
    · omega
    · omega
    · rw [htwo] at hgap
      rcases hrun' with htwo' | hsingle
      · rw [htwo'] at hstep
        omega
      · omega
  · rw [hchar]
    omega

lemma runs_behind_ascii : ∀ run ∈ runs.tail, 0x80 ≤ run.1 := by
  decide +kernel

lemma isUpper_iff {c : Char} : c.isUpper = true ↔ 0x41 ≤ c.toNat ∧ c.toNat ≤ 0x5a :=
  decide_eq_true_iff

lemma toLower_of_not_isUpper {c : Char} (h : ¬c.isUpper) : c.toLower = c :=
  dif_neg fun hletter => h (decide_eq_true hletter)

lemma toNat_toLower_of_isUpper {c : Char} (h : c.isUpper) : c.toLower.toNat = c.toNat + 32 := by
  obtain ⟨-, hhigh⟩ := isUpper_iff.mp h
  have hsum : (c.val + ('a'.val - 'A'.val)).toNat = (c.toNat + 32) % 2 ^ 32 :=
    UInt32.toNat_add c.val _
  have hlower : c.toLower = ⟨c.val + ('a'.val - 'A'.val), _⟩ := dif_pos (of_decide_eq_true h)
  rw [hlower]
  exact hsum.trans (Nat.mod_eq_of_lt (by omega))

lemma isSmall_iff_of_ascii {c : Char} (hascii : c.toNat < 0x80) : IsSmall c ↔ ¬c.isUpper := by
  have hfirst : runs = (0x41, 0x5a, 1, 0x61) :: runs.tail := rfl
  have hrest : image? c.toNat runs.tail = none := by
    refine image?_eq_none fun run hrun hheld => ?_
    have hstart := runs_behind_ascii run hrun
    omega
  have himage : image? c.toNat runs = none ↔ ¬c.isUpper := by
    rw [hfirst, image?, hrest, isUpper_iff, Nat.mod_one]
    simp
  refine ⟨fun h => himage.mp h.image, fun h => ⟨himage.mpr h, by omega⟩⟩

lemma isSmall_toLower {c : Char} (hascii : c.toNat < 0x80) : IsSmall c.toLower := by
  by_cases h : c.isUpper
  · have hletter := isUpper_iff.mp h
    have hlower := toNat_toLower_of_isUpper h
    rw [isSmall_iff_of_ascii (by omega), isUpper_iff]
    omega
  · rwa [toLower_of_not_isUpper h, isSmall_iff_of_ascii hascii]

lemma isSmall_of_mem_dottedCapitalI : ∀ d ∈ dottedCapitalI, IsSmall d := by
  simp only [dottedCapitalI, List.forall_mem_cons]
  exact ⟨isSmall_toLower (c := 'I') (by decide), ⟨by decide +kernel, by decide⟩, by simp⟩

lemma isSmall_of_mem_ofChar {c d : Char} (hd : d ∈ ofChar c) : IsSmall d := by
  unfold ofChar at hd
  split_ifs at hd with hascii hdotted
  · obtain rfl := List.mem_singleton.mp hd
    exact isSmall_toLower hascii
  · exact isSmall_of_mem_dottedCapitalI d hd
  · cases himage : image? c.toNat runs with
    | some n =>
      rw [himage] at hd
      obtain rfl := List.mem_singleton.mp hd
      exact isSmall_of_image? himage
    | none =>
      rw [himage] at hd
      obtain rfl := List.mem_singleton.mp hd
      exact ⟨himage, hdotted⟩

lemma IsSmall.ofChar_eq {c : Char} (h : IsSmall c) : ofChar c = [c] := by
  unfold ofChar
  split_ifs with hascii hdotted
  · rw [toLower_of_not_isUpper ((isSmall_iff_of_ascii hascii).mp h)]
  · exact absurd hdotted h.notDotted
  · rw [h.image]

lemma ofChar_toLower (c : Char) : ofChar c.toLower = ofChar c := by
  by_cases h : c.isUpper
  · have hascii : c.toNat < 0x80 := by
      have hletter := isUpper_iff.mp h
      omega
    rw [(isSmall_toLower hascii).ofChar_eq, ofChar, if_pos hascii]
  · rw [toLower_of_not_isUpper h]

end Lowercase

/-! ### Cased and ignorable characters -/

namespace Cased

open Lowercase (isUpper_iff toLower_of_not_isUpper toNat_toLower_of_isUpper)

lemma ignorableRanges_miss_letters : (ignorableRanges.all fun range =>
    Nat.ble (range.2 + 1) 0x41 || (Nat.ble 0x5b range.1 && Nat.ble (range.2 + 1) 0x61) ||
      Nat.ble 0x7b range.1) = true := by
  decide +kernel

lemma isIgnorable_of_letter {c : Char}
    (h : 0x41 ≤ c.toNat ∧ c.toNat ≤ 0x5a ∨ 0x61 ≤ c.toNat ∧ c.toNat ≤ 0x7a) :
    isIgnorable c = false := by
  rw [isIgnorable, Bool.eq_false_iff, ne_eq, Range.holds_eq_true_iff]
  rintro ⟨range, hrange, hlow, hhigh⟩
  have hmiss := List.all_eq_true.mp ignorableRanges_miss_letters range hrange
  simp only [Bool.or_eq_true, Bool.and_eq_true, Nat.ble_eq] at hmiss
  omega

lemma isCased_of_letter {c : Char}
    (h : 0x41 ≤ c.toNat ∧ c.toNat ≤ 0x5a ∨ 0x61 ≤ c.toNat ∧ c.toNat ≤ 0x7a) :
    isCased c = true := by
  rw [isCased, Range.holds_eq_true_iff]
  rcases h with h | h
  · exact ⟨(0x41, 0x5a), List.mem_cons_self, h⟩
  · exact ⟨(0x61, 0x7a), List.mem_cons_of_mem _ List.mem_cons_self, h⟩

lemma isIgnorable_toLower (c : Char) : isIgnorable c.toLower = isIgnorable c := by
  by_cases h : c.isUpper
  · have hletter := isUpper_iff.mp h
    have hlower := toNat_toLower_of_isUpper h
    rw [isIgnorable_of_letter (.inl hletter), isIgnorable_of_letter (.inr (by omega))]
  · rw [toLower_of_not_isUpper h]

lemma isCased_toLower (c : Char) : isCased c.toLower = isCased c := by
  by_cases h : c.isUpper
  · have hletter := isUpper_iff.mp h
    have hlower := toNat_toLower_of_isUpper h
    rw [isCased_of_letter (.inl hletter), isCased_of_letter (.inr (by omega))]
  · rw [toLower_of_not_isUpper h]

end Cased

/-! ### Texts -/

namespace Fold

open Lowercase (IsSmall)

lemma isSmall_smallSigma : IsSmall smallSigma :=
  Lowercase.isSmall_of_image? (c := 0x3A3) (by decide +kernel)

lemma isSmall_finalSigma : IsSmall finalSigma := ⟨by decide +kernel, by decide⟩

lemma isSmall_of_mem_following (before cs : List Char) : ∀ d ∈ following before cs, IsSmall d := by
  induction cs generalizing before with
  | nil => simp
  | cons c after ih =>
    rw [following_cons, List.forall_mem_append]
    refine ⟨fun d hd => ?_, ih _⟩
    unfold ofCharBetween at hd
    split_ifs at hd with hsigma hend
    · obtain rfl := List.mem_singleton.mp hd
      exact isSmall_finalSigma
    · obtain rfl := List.mem_singleton.mp hd
      exact isSmall_smallSigma
    · exact Lowercase.isSmall_of_mem_ofChar hd

lemma ne_capitalSigma_of_isSmall {c : Char} (h : IsSmall c) : c ≠ capitalSigma := by
  rintro rfl
  have himage : Lowercase.image? capitalSigma.toNat Lowercase.runs = some 0x3C3 := by decide +kernel
  rw [h.image] at himage
  cases himage

lemma following_of_isSmall {cs : List Char} (h : ∀ c ∈ cs, IsSmall c) (before : List Char) :
    following before cs = cs := by
  induction cs generalizing before with
  | nil => rfl
  | cons c after ih =>
    rw [List.forall_mem_cons] at h
    rw [following_cons, ofCharBetween_of_ne (ne_capitalSigma_of_isSmall h.1), h.1.ofChar_eq,
      ih h.2, List.singleton_append]

lemma meetsCased_map_toLower (cs : List Char) :
    meetsCased (cs.map Char.toLower) = meetsCased cs := by
  have hlooked : Cased.isIgnorable ∘ Char.toLower = Cased.isIgnorable :=
    funext Cased.isIgnorable_toLower
  rw [meetsCased, meetsCased, List.dropWhile_map, hlooked]
  cases cs.dropWhile Cased.isIgnorable with
  | nil => rfl
  | cons c after => exact Cased.isCased_toLower c

lemma toLower_eq_capitalSigma_iff {c : Char} : c.toLower = capitalSigma ↔ c = capitalSigma := by
  by_cases h : c.isUpper
  · have hletter := Lowercase.isUpper_iff.mp h
    have hlower := Lowercase.toNat_toLower_of_isUpper h
    have hsigma : capitalSigma.toNat = 0x3A3 := by decide
    constructor
    · intro heq
      rw [heq, hsigma] at hlower
      omega
    · rintro rfl
      rw [hsigma] at hletter
      omega
  · rw [Lowercase.toLower_of_not_isUpper h]

lemma ofCharBetween_toLower (before : List Char) (c : Char) (after : List Char) :
    ofCharBetween (before.map Char.toLower) c.toLower (after.map Char.toLower) =
      ofCharBetween before c after := by
  have hends : endsWord (before.map Char.toLower) (after.map Char.toLower) =
      endsWord before after := by
    rw [endsWord, endsWord, meetsCased_map_toLower, meetsCased_map_toLower]
  by_cases hc : c = capitalSigma
  · rw [ofCharBetween, ofCharBetween, if_pos (toLower_eq_capitalSigma_iff.mpr hc), if_pos hc, hends]
  · rw [ofCharBetween_of_ne (mt toLower_eq_capitalSigma_iff.mp hc), ofCharBetween_of_ne hc,
      Lowercase.ofChar_toLower]

/-- The case of the ASCII letters does not matter, neither in the text nor in what stands before. -/
lemma following_map_toLower (before cs : List Char) :
    following (before.map Char.toLower) (cs.map Char.toLower) = following before cs := by
  induction cs generalizing before with
  | nil => rfl
  | cons c after ih =>
    rw [List.map_cons, following_cons, following_cons, ofCharBetween_toLower, ← List.map_cons, ih]

end Fold

end MoodStore.Text

namespace MoodStore

open Text

/-- The texts differ at most in the case of ASCII letters. -/
def CaseVariant (name variant : String) : Prop :=
  variant.toList.map Char.toLower = name.toList.map Char.toLower

instance (name variant : String) : Decidable (CaseVariant name variant) :=
  inferInstanceAs (Decidable (_ = _))

lemma foldCase_foldCase (name : String) : foldCase (foldCase name) = foldCase name := by
  have hsmall := Fold.isSmall_of_mem_following [] name.toList
  rw [foldCase, foldCase, String.toList_ofList, Fold.ofList, Fold.ofList,
    Fold.following_of_isSmall hsmall]

lemma CaseVariant.foldCase_eq {name variant : String} (h : CaseVariant name variant) :
    foldCase variant = foldCase name := by
  rw [foldCase, foldCase, Fold.ofList, Fold.ofList, ← Fold.following_map_toLower [] name.toList,
    ← Fold.following_map_toLower [] variant.toList, h]

end MoodStore
