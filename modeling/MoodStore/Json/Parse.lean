import MoodStore.Json.Scan

/-!
Building a JSON value from its tokens, with the enclosing arrays and objects on a stack.
-/

namespace MoodStore.Json

/-- An array or object that is not closed yet, its parts newest first. The value of an object's
`key` is still to come. -/
inductive Frame where
  | array (items : List Value)
  | object (members : List (Text × Value)) (key : Text)

/-- What has been read and what may follow: a value after `want`, a value or the closing bracket
behind an opening one, a key after `key`, a colon after `colon`; at `done` a value is complete. -/
inductive Builder where
  | want (frames : List Frame)
  | arrayStart (frames : List Frame)
  | objectStart (frames : List Frame)
  | key (members : List (Text × Value)) (frames : List Frame)
  | colon (members : List (Text × Value)) (key : Text) (frames : List Frame)
  | done (value : Value) (frames : List Frame)

namespace Builder

/-- Takes the first token of a value. -/
def start (frames : List Frame) : Token → Option Builder
  | .null => some (done .null frames)
  | .bool value => some (done (.bool value) frames)
  | .number value => some (done (.number value) frames)
  | .text value => some (done (.text value) frames)
  | .openBracket => some (arrayStart frames)
  | .openBrace => some (objectStart frames)
  | _ => none

def step : Builder → Token → Option Builder
  | want frames, token => start frames token
  | arrayStart frames, .closeBracket => some (done (.array []) frames)
  | arrayStart frames, token => start (.array [] :: frames) token
  | objectStart frames, .closeBrace => some (done (.object []) frames)
  | objectStart frames, .text name => some (colon [] name frames)
  | key members frames, .text name => some (colon members name frames)
  | colon members name frames, .colon => some (want (.object members name :: frames))
  | done value (.array items :: frames), .comma => some (want (.array (value :: items) :: frames))
  | done value (.array items :: frames), .closeBracket =>
    some (done (.array (value :: items).reverse) frames)
  | done value (.object members name :: frames), .comma =>
    some (key ((name, value) :: members) frames)
  | done value (.object members name :: frames), .closeBrace =>
    some (done (.object ((name, value) :: members).reverse) frames)
  | _, _ => none

/-- The value, if it is complete and nothing encloses it. -/
def finish : Builder → Option Value
  | done value [] => some value
  | _ => none

def run (b : Builder) (tokens : List Token) : Option Builder := tokens.foldlM step b

theorem run_append (b : Builder) (ts us : List Token) :
    b.run (ts ++ us) = (b.run ts).bind fun c => c.run us := by
  simp [run, List.foldlM_append]

end Builder

/-- The value of a token sequence. -/
def Value.ofTokens? (tokens : List Token) : Option Value :=
  ((Builder.want []).run tokens).bind Builder.finish

def parse? (text : String) : Option Value := (tokens? text.toList).bind Value.ofTokens?

end MoodStore.Json
