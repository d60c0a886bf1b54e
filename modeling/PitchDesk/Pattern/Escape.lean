import PitchDesk.Pattern.Cursor
import PitchDesk.Text.Decimal

/-!
# Escapes in patterns

What follows a backslash: punctuation that stands for itself, a control character, the number of a
character, a kind or a property of characters, or a place in the text.
-/

namespace PitchDesk.Pattern

/-- Reads some hexadecimal digits, whose value continues a number. -/
def readHexDigits (value : Nat) : Nat → Cursor → Except Fault (Nat × Cursor)
  | 0, c => .ok (value, c)
  | n + 1, c =>
    match c.rest with
    | [] => .error (.of c.here .endInEscape)
    | x :: _ =>
      match Text.hexValue? x with
      | some digit => readHexDigits (value * 16 + digit) n c.step
      | none => .error (.of c.next .hexDigit)

/-- Reads the number of a character, after the letter that says how many digits it has. -/
def readNumbered (first digits : Nat) (c : Cursor) : Except Fault (Atom × Cursor) :=
  if c.rest.head? = some '\x7b' then
    let (_, d) := c.step.stepAll fun x ↦ (Text.hexValue? x).isSome
    if d.rest.isEmpty then .error (.of (d.since c.column) .endInEscape)
    else .error (.of d.next .hexDigit)
  else do
    let (value, d) ← readHexDigits 0 digits c
    if value.isValidChar then
      return (.literal ⟨d.since first, Char.ofNat value, digits == 2⟩, d)
    else throw (.of (d.since c.column) .noCharacter)

/-- Reads the letter of a property. -/
def readProperty (first : Nat) (c : Cursor) : Except Fault (Atom × Cursor) :=
  match c.rest with
  | [] | '\x7b' :: _ => .error (.of c.finish.here .endInEscape)
  | '\\' :: _ => .error (.of c.next .propertyName)
  | _ => .ok (.property (c.step.since first), c.step)

/-- Checks what follows the letter of a word boundary: a brace that opens the name of a special one
is not closed, and any other belongs to a repetition. -/
def checkBoundary (first : Nat) (c : Cursor) : Except Fault Unit :=
  let isName := fun (x : Char) ↦ x.isAlpha || x == '-'
  if c.rest.head? = some '\x7b' then
    match c.step.rest with
    | [] => .error (.of (c.step.since first) .endInBoundary)
    | x :: _ =>
      if isName x then .error (.of ((c.step.stepAll isName).2.since c.column) .openBoundary)
      else .ok ()
  else .ok ()

/-- Whether a character stands for itself after a backslash: ASCII punctuation, blanks and controls
do, apart from angle brackets. -/
def isEscapable (x : Char) : Bool :=
  x.toNat < 0x80 && !x.isAlphanum && x != '<' && x != '>'

/-- The control characters that have letters. -/
def control? : Char → Option Char
  | 'a' => some '\x07'
  | 'f' => some '\x0c'
  | 't' => some '\t'
  | 'n' => some '\n'
  | 'r' => some '\r'
  | 'v' => some '\x0b'
  | _ => none

/-- Reads an escape, from its backslash on. -/
def readEscape (c : Cursor) : Except Fault (Atom × Cursor) :=
  let first := c.column
  let c := c.drop 1
  match c.rest with
  | [] => .error (.of (c.since first) .endInEscape)
  | x :: _ =>
    let d := c.drop 1
    let span := d.since first
    if x.isDigit then .error (.of span .backreference)
    else if isEscapable x then .ok (.literal ⟨span, x, false⟩, d)
    else
      match control? x with
      | some control => .ok (.literal ⟨span, control, false⟩, d)
      | none =>
        match x with
        | 'x' => readNumbered first 2 c.step
        | 'u' => readNumbered first 4 c.step
        | 'U' => readNumbered first 8 c.step
        | 'p' | 'P' => readProperty first c.step
        | 'd' | 's' | 'w' => .ok (.kind span false, d)
        | 'D' | 'S' | 'W' => .ok (.kind span true, d)
        | 'A' | 'z' => .ok (.anchor span, d)
        | 'B' | '<' | '>' => .ok (.boundary span, d)
        | 'b' => do
          checkBoundary first d
          return (.boundary span, d)
        | _ => .error (.of span .unknownEscape)

end PitchDesk.Pattern
