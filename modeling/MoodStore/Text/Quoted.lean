import MoodStore.Text.Escaped

/-!
Quoted texts: a text between double quotes, with quotes, backslashes and line breaks escaped by a
backslash and every character that does not show on its own written by its number.
-/

namespace MoodStore.Text.Quoted

open MoodStore.Text

/-- The number of a character in small hexadecimal digits between braces. -/
def numbered (c : Char) : List Char :=
  ['\\', 'u', '\x7b'] ++ Nat.toDigits 16 c.toNat ++ ['\x7d']

/-- One character inside the quotes. -/
def escape (c : Char) : List Char :=
  if c = '"' then ['\\', '"']
  else if c = '\\' then ['\\', '\\']
  else if c = '\n' then ['\\', 'n']
  else if c = '\r' then ['\\', 'r']
  else if c = '\t' then ['\\', 't']
  else if c = '\x00' then ['\\', '0']
  else if Escaped.isEscaped c then numbered c
  else [c]

def encode (cs : List Char) : List Char := '"' :: cs.flatMap escape ++ ['"']

end MoodStore.Text.Quoted

namespace MoodStore

/-- The text between quotes, as it is shown in messages and listings. -/
def quoted (text : String) : String := String.ofList (Text.Quoted.encode text.toList)

end MoodStore
