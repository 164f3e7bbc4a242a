import MoodStore.Json.Value

/-!
Writing a JSON value without blanks.

Strings escape the quote, the backslash and the control characters and nothing else; the five
controls with a letter of their own use it, the others are numbered.
-/

namespace MoodStore.Json

/-- A small hexadecimal digit. -/
def hexDigit (n : Nat) : Char := if n < 10 then Char.ofNat (48 + n) else Char.ofNat (87 + n)

/-- One character inside a string literal. -/
def escapeChar (c : Char) : List Char :=
  if c = '"' then ['\\', '"']
  else if c = '\\' then ['\\', '\\']
  else if c = '\x08' then ['\\', 'b']
  else if c = '\x0c' then ['\\', 'f']
  else if c = '\n' then ['\\', 'n']
  else if c = '\r' then ['\\', 'r']
  else if c = '\t' then ['\\', 't']
  else if c.toNat < 0x20 then
    ['\\', 'u', '0', '0', hexDigit (c.toNat / 16), hexDigit (c.toNat % 16)]
  else [c]

def literal (cs : List Char) : List Char := '"' :: cs.flatMap escapeChar ++ ['"']

def Number.spell : Number → List Char
  | .whole value => (toString value).toList
  | .other spelling => spelling.toList

/-- The characters of a token. A text without content has no spelling and is written empty. -/
def Token.spell : Token → List Char
  | .openBracket => ['[']
  | .closeBracket => [']']
  | .openBrace => ['\x7b']
  | .closeBrace => ['\x7d']
  | .comma => [',']
  | .colon => [':']
  | .null => ['n', 'u', 'l', 'l']
  | .bool true => ['t', 'r', 'u', 'e']
  | .bool false => ['f', 'a', 'l', 's', 'e']
  | .number value => value.spell
  | .text value => literal (value.getD "").toList

namespace Value

mutual

def tokens : Value → List Token
  | .null => [.null]
  | .bool value => [.bool value]
  | .number value => [.number value]
  | .text value => [.text value]
  | .array [] => [.openBracket, .closeBracket]
  | .array (item :: items) =>
    .openBracket :: tokens item ++ itemTokens items ++ [.closeBracket]
  | .object [] => [.openBrace, .closeBrace]
  | .object ((key, value) :: members) =>
    .openBrace :: .text key :: .colon :: tokens value ++ memberTokens members ++ [.closeBrace]

/-- The tokens of the items after the first. -/
def itemTokens : List Value → List Token
  | [] => []
  | item :: items => .comma :: tokens item ++ itemTokens items

/-- The tokens of the members after the first. -/
def memberTokens : List (Text × Value) → List Token
  | [] => []
  | (key, value) :: members =>
    .comma :: .text key :: .colon :: tokens value ++ memberTokens members

end

def render (value : Value) : String := String.ofList (value.tokens.flatMap Token.spell)

end Value

end MoodStore.Json
