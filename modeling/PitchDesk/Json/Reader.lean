import PitchDesk.Json.Token

/-!
# Reading JSON

A value is read from its tokens by a machine with a stack of the arrays and objects that are still
open. Each token takes one step, so reading is a fold over the tokens, however deep they nest.

The texts that are taken for JSON are those that serde_json 1.0 takes, which keeps strictly to the
grammar: no byte order mark, no comments, no comma after the last element, nothing after the value,
and no control characters in strings. How deeply values may nest, and which escapes and numbers
stand for something, is asked only where a value is used (`Json.Data`). Every result on what an
answer, a record or an envelope says rests on this reading.
-/

namespace PitchDesk.Json

/-- An array or object that is still open, with what it holds so far, the last element first. -/
inductive Frame where
  | array (done : List Json)
  | object (done : List (List Piece × Json)) (key : List Piece)

/-- What may come next. -/
inductive State where
  /-- A value must come. -/
  | value (stack : List Frame)
  /-- An array was opened: its first value or its end must come. -/
  | firstItem (stack : List Frame)
  /-- An object was opened: its first key or its end must come. -/
  | firstKey (stack : List Frame)
  /-- A key must come. -/
  | key (done : List (List Piece × Json)) (stack : List Frame)
  /-- A key was read and its colon must come. -/
  | colon (done : List (List Piece × Json)) (key : List Piece) (stack : List Frame)
  /-- A value is complete. -/
  | complete (value : Json) (stack : List Frame)

/-- Starts the value whose first token this is. -/
def startValue? (stack : List Frame) : Token → Option State
  | .openObject => some (.firstKey stack)
  | .openArray => some (.firstItem stack)
  | .null => some (.complete .null stack)
  | .bool b => some (.complete (.bool b) stack)
  | .number n => some (.complete (.number n) stack)
  | .string s => some (.complete (.string s) stack)
  | _ => none

/-- What one token does. -/
def State.step? : State → Token → Option State
  | .value stack, t => startValue? stack t
  | .firstItem stack, .closeArray => some (.complete (.array []) stack)
  | .firstItem stack, t => startValue? (.array [] :: stack) t
  | .firstKey stack, .closeObject => some (.complete (.object []) stack)
  | .firstKey stack, .string k => some (.colon [] k stack)
  | .key done stack, .string k => some (.colon done k stack)
  | .colon done k stack, .colon => some (.value (.object done k :: stack))
  | .complete v (.array done :: stack), .comma => some (.value (.array (v :: done) :: stack))
  | .complete v (.array done :: stack), .closeArray =>
    some (.complete (.array (v :: done).reverse) stack)
  | .complete v (.object done k :: stack), .comma => some (.key ((k, v) :: done) stack)
  | .complete v (.object done k :: stack), .closeObject =>
    some (.complete (.object ((k, v) :: done).reverse) stack)
  | _, _ => none

/-- The value that some tokens make up. -/
def ofTokens? (tokens : List Token) : Option Json :=
  match tokens.foldlM State.step? (.value []) with
  | some (.complete v []) => some v
  | _ => none

/-- The value that a text holds, with nothing but blanks around it. -/
def read? (s : String) : Option Json := do
  ofTokens? (← Token.all? s.toList)

end PitchDesk.Json
