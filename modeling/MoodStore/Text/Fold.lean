import MoodStore.Text.Lowercase
import MoodStore.Text.Cased

/-!
Case folding: the lowercase of a whole text.

Every character takes its own lowercase but the capital sigma, which becomes the final form at
the end of a word and the inner form elsewhere. A word ends at a sigma that has a cased letter
before it and none after it, case-ignorable characters looked through on both sides.
-/

namespace MoodStore.Text.Fold

open MoodStore.Text

def capitalSigma : Char := Char.ofNat 0x3A3
def smallSigma : Char := Char.ofNat 0x3C3
def finalSigma : Char := Char.ofNat 0x3C2

/-- The first character that is not looked through is a cased letter. -/
def meetsCased (cs : List Char) : Bool :=
  match cs.dropWhile Cased.isIgnorable with
  | [] => false
  | c :: _ => Cased.isCased c

/-- A sigma between the text `before`, nearest character first, and the text `after` ends a word. -/
def endsWord (before after : List Char) : Bool := meetsCased before && !meetsCased after

/-- The lowercase of a character between `before`, nearest character first, and `after`. -/
def ofCharBetween (before : List Char) (c : Char) (after : List Char) : List Char :=
  if c = capitalSigma then [if endsWord before after then finalSigma else smallSigma]
  else Lowercase.ofChar c

/-- The lowercase of a text that follows `before`, nearest character first. -/
def following (before : List Char) : List Char → List Char
  | [] => []
  | c :: after => ofCharBetween before c after ++ following (c :: before) after

def ofList (cs : List Char) : List Char := following [] cs

@[simp] theorem following_nil (before : List Char) : following before [] = [] := rfl

theorem following_cons (before : List Char) (c : Char) (after : List Char) :
    following before (c :: after) = ofCharBetween before c after ++ following (c :: before) after :=
  rfl

/-- A character other than the capital sigma folds the same wherever it stands. -/
theorem ofCharBetween_of_ne {c : Char} (h : c ≠ capitalSigma) (before after : List Char) :
    ofCharBetween before c after = Lowercase.ofChar c := if_neg h

end MoodStore.Text.Fold

namespace MoodStore

/-- The key under which a name is looked up: names that differ only in case share it. -/
def foldCase (name : String) : String := String.ofList (Text.Fold.ofList name.toList)

end MoodStore
