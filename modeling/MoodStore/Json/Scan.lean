import MoodStore.Json.Value

/-!
Reading the tokens of a JSON text, one character at a time.

The reader is strict: four kinds of blank, no raw control character in a string, no leading zero
and no bare sign, nothing but the three literal words.
-/

namespace MoodStore.Json

/-! ### Numbers -/

/-- A number's digits after its sign and up to the first other character. -/
def splitDigits (cs : List Char) : List Char × List Char :=
  (cs.takeWhile Char.isDigit, cs.dropWhile Char.isDigit)

/-- The digits spell a whole part: at least one, and no superfluous zero in front. -/
def isWholePart : List Char → Bool
  | [] => false
  | ['0'] => true
  | c :: _ => c != '0'

/-- The rest of a number after its whole part and fraction. -/
def isExponent : List Char → Bool
  | [] => true
  | e :: cs =>
    (e == 'e' || e == 'E') &&
      let digits := match cs with
        | '+' :: ds => ds
        | '-' :: ds => ds
        | ds => ds
      digits != [] && digits.all Char.isDigit

/-- The rest of a number after its whole part. -/
def isFractionAndExponent : List Char → Bool
  | '.' :: cs =>
    let (digits, rest) := splitDigits cs
    digits != [] && isExponent rest
  | cs => isExponent cs

def natOfDigits (digits : List Char) : Nat :=
  digits.foldl (fun n c => 10 * n + (c.toNat - '0'.toNat)) 0

/-- The number that a sequence of characters spells. -/
def Number.ofChars? (cs : List Char) : Option Number :=
  let (negative, unsigned) := match cs with
    | '-' :: ds => (true, ds)
    | ds => (false, ds)
  let (digits, rest) := splitDigits unsigned
  if !isWholePart digits || !isFractionAndExponent rest then none
  else if rest = [] ∧ ¬ (negative ∧ digits = ['0']) then
    some (.whole (if negative then -(natOfDigits digits : Int) else natOfDigits digits))
  else some (.other (String.ofList cs))

/-! ### Strings -/

/-- A piece of a string literal: a character, or the unit that a numbered escape stands for. -/
inductive Piece where
  | char (c : Char)
  | unit (n : Nat)
  deriving DecidableEq, Repr

def isHighSurrogate (n : Nat) : Bool := 0xD800 ≤ n && n < 0xDC00
def isLowSurrogate (n : Nat) : Bool := 0xDC00 ≤ n && n < 0xE000

/-- The character of a surrogate pair. -/
def pairChar (high low : Nat) : Char :=
  Char.ofNat (0x10000 + (high - 0xD800) * 0x400 + (low - 0xDC00))

/-- The content of a literal, if every surrogate in it is half of a pair. -/
def joinPieces : List Piece → Option (List Char)
  | [] => some []
  | .char c :: ps => (joinPieces ps).map (c :: ·)
  | .unit n :: ps =>
    if isHighSurrogate n then
      match ps with
      | .unit m :: qs =>
        if isLowSurrogate m then (joinPieces qs).map (pairChar n m :: ·) else none
      | _ => none
    else if isLowSurrogate n then none
    else (joinPieces ps).map (Char.ofNat n :: ·)

/-- The text of the pieces of a literal. -/
def Text.ofPieces (pieces : List Piece) : Text := (joinPieces pieces).map String.ofList

def shortEscape? (c : Char) : Option Char :=
  match c with
  | '"' => some '"'
  | '\\' => some '\\'
  | '/' => some '/'
  | 'b' => some '\x08'
  | 'f' => some '\x0c'
  | 'n' => some '\n'
  | 'r' => some '\r'
  | 't' => some '\t'
  | _ => none

def hexDigit? (c : Char) : Option Nat :=
  if '0' ≤ c ∧ c ≤ '9' then some (c.toNat - 48)
  else if 'a' ≤ c ∧ c ≤ 'f' then some (c.toNat - 87)
  else if 'A' ≤ c ∧ c ≤ 'F' then some (c.toNat - 55)
  else none

/-! ### Tokens -/

/-- Where the reader stands. Characters and pieces seen so far are kept newest first. -/
inductive Mode where
  | between
  | word (seen : List Char)
  | digits (seen : List Char)
  | literal (pieces : List Piece)
  | escape (pieces : List Piece)
  | hex (pieces : List Piece) (left : Nat) (value : Nat)

def isBlank (c : Char) : Bool := c == ' ' || c == '\t' || c == '\n' || c == '\r'

/-- A character that can stand in a number. -/
def isNumeric (c : Char) : Bool :=
  c.isDigit || c == '-' || c == '+' || c == '.' || c == 'e' || c == 'E'

def punctuation? (c : Char) : Option Token :=
  match c with
  | '[' => some .openBracket
  | ']' => some .closeBracket
  | '\x7b' => some .openBrace
  | '\x7d' => some .closeBrace
  | ',' => some .comma
  | ':' => some .colon
  | _ => none

def wordToken? (word : List Char) : Option Token :=
  if word = ['n', 'u', 'l', 'l'] then some .null
  else if word = ['t', 'r', 'u', 'e'] then some (.bool true)
  else if word = ['f', 'a', 'l', 's', 'e'] then some (.bool false)
  else none

/-- The reader: its mode and the tokens it has read, newest first. -/
structure Scanner where
  mode : Mode
  tokens : List Token

namespace Scanner

/-- Takes the first character of a token, or a blank. -/
def start (tokens : List Token) (c : Char) : Option Scanner :=
  if isBlank c then some ⟨.between, tokens⟩
  else match punctuation? c with
    | some token => some ⟨.between, token :: tokens⟩
    | none =>
      if c = '"' then some ⟨.literal [], tokens⟩
      else if c.isDigit || c == '-' then some ⟨.digits [c], tokens⟩
      else if c.isLower then some ⟨.word [c], tokens⟩
      else none

def step (s : Scanner) (c : Char) : Option Scanner :=
  match s.mode with
  | .between => start s.tokens c
  | .word seen =>
    if c.isLower then some ⟨.word (c :: seen), s.tokens⟩
    else (wordToken? seen.reverse).bind fun token => start (token :: s.tokens) c
  | .digits seen =>
    if isNumeric c then some ⟨.digits (c :: seen), s.tokens⟩
    else (Number.ofChars? seen.reverse).bind fun n => start (.number n :: s.tokens) c
  | .literal pieces =>
    if c = '"' then some ⟨.between, .text (Text.ofPieces pieces.reverse) :: s.tokens⟩
    else if c = '\\' then some ⟨.escape pieces, s.tokens⟩
    else if c.toNat < 0x20 then none
    else some ⟨.literal (.char c :: pieces), s.tokens⟩
  | .escape pieces =>
    if c = 'u' then some ⟨.hex pieces 4 0, s.tokens⟩
    else (shortEscape? c).map fun d => ⟨.literal (.char d :: pieces), s.tokens⟩
  | .hex pieces left value =>
    (hexDigit? c).map fun d =>
      if left ≤ 1 then ⟨.literal (.unit (16 * value + d) :: pieces), s.tokens⟩
      else ⟨.hex pieces (left - 1) (16 * value + d), s.tokens⟩

/-- The tokens at the end of the text, newest first. -/
def finish (s : Scanner) : Option (List Token) :=
  match s.mode with
  | .between => some s.tokens
  | .word seen => (wordToken? seen.reverse).map (· :: s.tokens)
  | .digits seen => (Number.ofChars? seen.reverse).map (.number · :: s.tokens)
  | _ => none

def run (s : Scanner) (cs : List Char) : Option Scanner := cs.foldlM step s

@[simp] theorem run_nil (s : Scanner) : s.run [] = some s := rfl

theorem run_append (s : Scanner) (cs ds : List Char) :
    s.run (cs ++ ds) = (s.run cs).bind fun t => t.run ds := by
  simp [run, List.foldlM_append]

end Scanner

def tokens? (cs : List Char) : Option (List Token) :=
  ((Scanner.run ⟨.between, []⟩ cs).bind Scanner.finish).map List.reverse

end MoodStore.Json
