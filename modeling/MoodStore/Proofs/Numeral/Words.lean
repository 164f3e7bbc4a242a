import Mathlib.Algebra.Group.Nat.Defs
import Mathlib.Data.Set.Function
import Mathlib.Tactic.Common
import MoodStore.Ids

/-!
The numerals of words.

Every number has one canonical numeral in base 36, the one that it is written as, and every
canonical numeral is that of the number it is read as. So ids with one tag are equal only if their
draws are.
-/

namespace MoodStore

namespace Base36

/-! ### Digits -/

lemma digitValue?_ne_none_iff {c : Char} :
    digitValue? c ≠ none ↔ ('0' ≤ c ∧ c ≤ '9') ∨ ('a' ≤ c ∧ c ≤ 'z') := by
  unfold digitValue?
  split_ifs with hdecimal hletter
  · simp [hdecimal]
  · simp [hletter]
  · simp [hdecimal, hletter]

lemma digit_of_digitValue? {c : Char} {d : ℕ} (h : digitValue? c = some d) :
    d < 36 ∧ digit d = c := by
  unfold digitValue? at h
  split_ifs at h with hdecimal hletter
  · obtain rfl := Option.some_inj.mp h
    have hlow : 48 ≤ c.toNat := hdecimal.1
    have hhigh : c.toNat ≤ 57 := hdecimal.2
    have hsum : 48 + (c.toNat - 48) = c.toNat := by omega
    refine ⟨by omega, ?_⟩
    rw [digit, if_pos (by omega), hsum, Char.ofNat_toNat]
  · obtain rfl := Option.some_inj.mp h
    have hlow : 97 ≤ c.toNat := hletter.1
    have hhigh : c.toNat ≤ 122 := hletter.2
    have hsum : 87 + (c.toNat - 87) = c.toNat := by omega
    refine ⟨by omega, ?_⟩
    rw [digit, if_neg (by omega), hsum, Char.ofNat_toNat]

lemma digit_ne_zero {d : ℕ} (hpos : 0 < d) (hlt : d < 36) : digit d ≠ '0' := by
  intro hzero
  have hvalue := digitValue?_digit hlt
  rw [hzero, show digitValue? '0' = some 0 by decide, Option.some_inj] at hvalue
  omega

/-! ### Reading a numeral back -/

lemma decodeFrom_cons {c : Char} {d : ℕ} (h : digitValue? c = some d) (high : ℕ) (cs : List Char) :
    decodeFrom high (c :: cs) = decodeFrom (36 * high + d) cs := by
  rw [decodeFrom, h, Option.bind_some]

lemma decodeFrom_append_digit {d : ℕ} (hd : d < 36) (high : ℕ) (cs : List Char) :
    decodeFrom high (cs ++ [digit d]) = (decodeFrom high cs).map fun n => 36 * n + d := by
  induction cs generalizing high with
  | nil => rw [List.nil_append, decodeFrom_cons (digitValue?_digit hd)]; rfl
  | cons c cs ih =>
    rw [List.cons_append, decodeFrom, decodeFrom, Option.map_bind]
    congr 1
    funext e
    exact ih _

lemma encode_zero : encode 0 = ['0'] := encode_of_lt (by decide)

lemma encode_ne_nil (n : ℕ) : encode n ≠ [] := by
  rcases Nat.lt_or_ge n 36 with h | h
  · rw [encode_of_lt h]
    exact List.cons_ne_nil _ _
  · rw [encode_of_ge h]
    exact List.append_ne_nil_of_right_ne_nil _ (List.cons_ne_nil _ _)

lemma decode?_of_ne_nil {cs : List Char} (h : cs ≠ []) : decode? cs = decodeFrom 0 cs := by
  cases cs with
  | nil => exact absurd rfl h
  | cons c cs => rfl

lemma decodeFrom_encode (n : ℕ) : decodeFrom 0 (encode n) = some n := by
  induction n using encode.induct with
  | case1 n h =>
    rw [encode_of_lt h, decodeFrom_cons (digitValue?_digit h), Nat.mul_zero, Nat.zero_add,
      decodeFrom_nil]
  | case2 n h ih =>
    rw [encode_of_ge (Nat.not_lt.mp h), decodeFrom_append_digit (Nat.mod_lt n (by decide)), ih,
      Option.map_some, Nat.div_add_mod]

lemma decode?_encode (n : ℕ) : decode? (encode n) = some n := by
  rw [decode?_of_ne_nil (encode_ne_nil n), decodeFrom_encode]

/-! ### Canonical numerals -/

lemma digitValue?_of_mem_encode {n : ℕ} : ∀ c ∈ encode n, digitValue? c ≠ none := by
  have hdigit : ∀ d < 36, digitValue? (digit d) ≠ none := fun d hd => by
    rw [digitValue?_digit hd]
    exact Option.some_ne_none d
  induction n using encode.induct with
  | case1 n h =>
    rw [encode_of_lt h, List.forall_mem_singleton]
    exact hdigit n h
  | case2 n h ih =>
    rw [encode_of_ge (Nat.not_lt.mp h), List.forall_mem_append, List.forall_mem_singleton]
    exact ⟨ih, hdigit _ (Nat.mod_lt n (by decide))⟩

lemma exists_encode_eq_cons {n : ℕ} (hpos : 0 < n) : ∃ c cs, encode n = c :: cs ∧ c ≠ '0' := by
  induction n using encode.induct with
  | case1 n h => exact ⟨digit n, [], encode_of_lt h, digit_ne_zero hpos h⟩
  | case2 n h ih =>
    -- the first digit is that of the quotient
    obtain ⟨c, cs, hencode, hc⟩ := ih (by omega)
    refine ⟨c, cs ++ [digit (n % 36)], ?_, hc⟩
    rw [encode_of_ge (Nat.not_lt.mp h), hencode, List.cons_append]

lemma canonical_encode (n : ℕ) : Canonical (encode n) := by
  refine ⟨digitValue?_of_mem_encode, ?_⟩
  rcases Nat.eq_zero_or_pos n with rfl | hpos
  · exact .inl encode_zero
  · exact .inr (exists_encode_eq_cons hpos)

/-- Digits behind a number that is not zero are read as the numeral of what they add up to. -/
lemma encode_append_of_decodeFrom {cs : List Char} {high n : ℕ} (hpos : 0 < high)
    (h : decodeFrom high cs = some n) : encode high ++ cs = encode n := by
  induction cs generalizing high with
  | nil =>
    obtain rfl := Option.some_inj.mp h
    exact List.append_nil _
  | cons c cs ih =>
    obtain ⟨d, hd, hrest⟩ := Option.bind_eq_some_iff.mp h
    obtain ⟨hlt, hdigit⟩ := digit_of_digitValue? hd
    have hdiv : (36 * high + d) / 36 = high := by omega
    have hmod : (36 * high + d) % 36 = d := by omega
    calc encode high ++ c :: cs
        = encode (36 * high + d) ++ cs := by
          rw [encode_of_ge (by omega : 36 ≤ 36 * high + d), hdiv, hmod, hdigit, List.append_assoc]
          rfl
      _ = encode n := ih (by omega) hrest

lemma Canonical.encode_eq {cs : List Char} {n : ℕ} (h : Canonical cs) (hn : decode? cs = some n) :
    encode n = cs := by
  obtain ⟨-, rfl | ⟨c, rest, rfl, hc⟩⟩ := h
  · obtain rfl : 0 = n := Option.some_inj.mp hn
    exact encode_zero
  · obtain ⟨d, hd, hrest⟩ := Option.bind_eq_some_iff.mp hn
    obtain ⟨hlt, rfl⟩ := digit_of_digitValue? hd
    rw [Nat.mul_zero, Nat.zero_add] at hrest
    have hpos : 0 < d := by
      rcases Nat.eq_zero_or_pos d with rfl | hpos
      · exact absurd rfl hc
      · exact hpos
    rw [← encode_append_of_decodeFrom hpos hrest, encode_of_lt hlt, List.singleton_append]

lemma length_encode_le {n k : ℕ} (h : n < 36 ^ (k + 1)) : (encode n).length ≤ k + 1 := by
  induction k generalizing n with
  | zero => rw [encode_of_lt (by omega), List.length_singleton]
  | succ k ih =>
    rcases Nat.lt_or_ge n 36 with hlt | hge
    · rw [encode_of_lt hlt, List.length_singleton]
      omega
    · have hquotient : n / 36 < 36 ^ (k + 1) :=
        Nat.div_lt_of_lt_mul (by rwa [Nat.pow_succ, Nat.mul_comm] at h)
      rw [encode_of_ge hge, List.length_append, List.length_singleton]
      exact Nat.succ_le_succ (ih hquotient)

/-! ### Words -/

lemma encode_toNat_injective : Function.Injective fun word : UInt64 => encode word.toNat := by
  intro word other h
  have hvalue : decode? (encode word.toNat) = decode? (encode other.toNat) := congrArg decode? h
  rw [decode?_encode, decode?_encode, Option.some_inj] at hvalue
  exact UInt64.toNat_inj.mp hvalue

/-- The canonical numerals of numbers below `2 ^ 64`. -/
def wordNumerals : Set (List Char) := {cs | Canonical cs ∧ ∃ n < 2 ^ 64, decode? cs = some n}

lemma encode_mem_wordNumerals (word : UInt64) : encode word.toNat ∈ wordNumerals :=
  ⟨canonical_encode _, word.toNat, word.toNat_lt, decode?_encode _⟩

end Base36

open Base36

lemma publicId_eq_iff {tag : String} {draw other : UInt64} :
    publicId tag draw = publicId tag other ↔ draw = other := by
  refine ⟨fun h => encode_toNat_injective ?_, fun h => h ▸ rfl⟩
  have hlists := congrArg String.toList h
  simpa only [publicId, String.toList_append, String.toList_ofList, List.append_cancel_left_eq]
    using hlists

/-- **Words and their numerals correspond.** Every word is written in at most 13 digits, without a
leading zero unless it is zero, and read back; and every canonical numeral of a number below
`2 ^ 64` is the one that this number is written as. So two ids with one tag are equal just when
their draws are. -/
theorem words_correspond_to_numerals :
    Set.BijOn (fun word : UInt64 => encode word.toNat) Set.univ wordNumerals ∧
      (∀ word : UInt64, decode? (encode word.toNat) = some word.toNat ∧
        (∀ c ∈ encode word.toNat, ('0' ≤ c ∧ c ≤ '9') ∨ ('a' ≤ c ∧ c ≤ 'z')) ∧
        ((encode word.toNat).head? = some '0' → encode word.toNat = ['0'] ∧ word = 0) ∧
        (encode word.toNat).length ≤ 13) ∧
      (∀ cs n, Canonical cs → decode? cs = some n → n < 2 ^ 64 →
        ∃ word : UInt64, word.toNat = n ∧ encode word.toNat = cs) ∧
      ∀ tag draw other, publicId tag draw = publicId tag other ↔ draw = other := by
  have hcanonical : ∀ cs n, Canonical cs → decode? cs = some n → n < 2 ^ 64 →
      ∃ word : UInt64, word.toNat = n ∧ encode word.toNat = cs := by
    intro cs n hcs hvalue hn
    have hword : (UInt64.ofNat n).toNat = n := UInt64.toNat_ofNat_of_lt' hn
    exact ⟨UInt64.ofNat n, hword, by rw [hword, hcs.encode_eq hvalue]⟩
  refine ⟨⟨fun word _ => encode_mem_wordNumerals word, encode_toNat_injective.injOn, ?_⟩,
    fun word => ⟨decode?_encode _, ?_, ?_, ?_⟩, hcanonical, fun _ _ _ => publicId_eq_iff⟩
  · rintro cs ⟨hcs, n, hn, hvalue⟩
    obtain ⟨word, -, hword⟩ := hcanonical cs n hcs hvalue hn
    exact ⟨word, Set.mem_univ word, hword⟩
  · exact fun c hc => digitValue?_ne_none_iff.mp (digitValue?_of_mem_encode c hc)
  · intro hhead
    obtain hzero | ⟨c, rest, hcons, hc⟩ := (canonical_encode word.toNat).2
    · exact ⟨hzero, encode_toNat_injective (hzero.trans encode_zero.symm)⟩
    · rw [hcons, List.head?_cons, Option.some_inj] at hhead
      exact absurd hhead hc
  · have hsize : 2 ^ 64 ≤ 36 ^ 13 := by decide
    exact length_encode_le (word.toNat_lt.trans_le hsize)

theorem largest_word_has_a_numeral :
    let numeral := "3w5e11264sgsf".toList
    Canonical numeral ∧ decode? numeral = some (2 ^ 64 - 1) ∧
      (∃ word : UInt64, word.toNat = 2 ^ 64 - 1 ∧ encode word.toNat = numeral) ∧
      numeral.length = 13 ∧ numeral ∈ wordNumerals := by
  intro numeral
  have hdigits : (numeral.all fun c => (digitValue? c).isSome) = true := by decide +kernel
  have hcanonical : Canonical numeral :=
    ⟨fun c hc => Option.isSome_iff_ne_none.mp (List.all_eq_true.mp hdigits c hc),
      .inr ⟨'3', "w5e11264sgsf".toList, rfl, by decide⟩⟩
  have hvalue : decode? numeral = some (2 ^ 64 - 1) := by decide +kernel
  obtain ⟨hbij, -, hwords, -⟩ := words_correspond_to_numerals
  obtain ⟨word, hword, hencode⟩ := hwords numeral _ hcanonical hvalue (by decide)
  exact ⟨hcanonical, hvalue, ⟨word, hword, hencode⟩, rfl, hencode ▸ hbij.mapsTo (Set.mem_univ word)⟩

end MoodStore
