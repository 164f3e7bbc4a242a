/-!
Numbers in base 36, written with the digits `0` to `9` and the small letters.

A canonical numeral has no leading zero unless it is `0` itself, so each number has one.
-/

namespace MoodStore.Base36

def digit (n : Nat) : Char := if n < 10 then Char.ofNat (48 + n) else Char.ofNat (87 + n)

def digitValue? (c : Char) : Option Nat :=
  if '0' ≤ c ∧ c ≤ '9' then some (c.toNat - 48)
  else if 'a' ≤ c ∧ c ≤ 'z' then some (c.toNat - 87)
  else none

/-- The numeral of a number, most significant digit first. -/
def encode (n : Nat) : List Char :=
  if n < 36 then [digit n] else encode (n / 36) ++ [digit (n % 36)]

/-- Reads digits after digits that are worth `high`. -/
def decodeFrom (high : Nat) : List Char → Option Nat
  | [] => some high
  | c :: cs => (digitValue? c).bind fun d => decodeFrom (36 * high + d) cs

/-- The number of a digit sequence; leading zeros are read as well. -/
def decode? : List Char → Option Nat
  | [] => none
  | cs => decodeFrom 0 cs

/-- The sequence is a numeral with no superfluous zero. -/
def Canonical (cs : List Char) : Prop :=
  (∀ c ∈ cs, digitValue? c ≠ none) ∧ (cs = ['0'] ∨ ∃ c r, cs = c :: r ∧ c ≠ '0')

@[simp] theorem decodeFrom_nil (high : Nat) : decodeFrom high [] = some high := rfl

theorem encode_of_lt {n : Nat} (h : n < 36) : encode n = [digit n] := by
  rw [encode, if_pos h]

theorem encode_of_ge {n : Nat} (h : 36 ≤ n) :
    encode n = encode (n / 36) ++ [digit (n % 36)] := by
  rw [encode, if_neg (by omega)]

theorem digitValue?_digit {n : Nat} (h : n < 36) : digitValue? (digit n) = some n := by
  have all : ∀ m : Fin 36, digitValue? (digit m) = some m.val := by decide
  exact all ⟨n, h⟩

end MoodStore.Base36
