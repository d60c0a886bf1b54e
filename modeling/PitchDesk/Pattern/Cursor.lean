import PitchDesk.Pattern.Fault
import PitchDesk.Text.Blank

/-!
# Reading along a pattern

Where a reader of a pattern stands. While a pattern is read in its verbose form, blanks and comments
do not count.
-/

namespace PitchDesk.Pattern

/-- A place in a pattern: what follows it, its column, whether the verbose form is read, and the
names of groups that were read. -/
structure Cursor where
  rest : List Char
  column : Nat
  verbose : Bool
  names : List (List Char × Span)

namespace Cursor

/-- The beginning of a pattern. -/
def start (pattern : List Char) : Cursor := ⟨pattern, 0, false, []⟩

/-- No columns at all, at this place. -/
def here (c : Cursor) : Span := ⟨c.column, c.column⟩

/-- The column of the next character. -/
def next (c : Cursor) : Span := ⟨c.column, c.column + 1⟩

/-- The columns from a first one to this place. -/
def since (c : Cursor) (first : Nat) : Span := ⟨first, c.column⟩

/-- The place some characters further. -/
def drop (c : Cursor) (n : Nat) : Cursor :=
  { c with rest := c.rest.drop n, column := c.column + n }

/-- The end of the pattern. -/
def finish (c : Cursor) : Cursor := c.drop c.rest.length

/-- The number of characters at the beginning of a text that belong to blanks and comments. A
comment ends with its line. -/
def idleLength (inComment : Bool) : List Char → Nat
  | [] => 0
  | x :: xs =>
    if inComment then idleLength (x != '\n') xs + 1
    else if Text.isBlank x then idleLength false xs + 1
    else if x == '#' then idleLength true xs + 1
    else 0

/-- Passes what does not count in the verbose form. -/
def settle (c : Cursor) : Cursor :=
  if c.verbose then c.drop (idleLength false c.rest) else c

/-- Passes a character and what does not count after it. -/
def step (c : Cursor) : Cursor := (c.drop 1).settle

/-- Passes characters with a property, one at a time and at most some, and what does not count
between them. -/
def stepWhile (p : Char → Bool) : Nat → Cursor → List Char × Cursor
  | 0, c => ([], c)
  | n + 1, c =>
    match c.rest with
    | [] => ([], c)
    | x :: _ =>
      if p x then
        let (xs, d) := stepWhile p n c.step
        (x :: xs, d)
      else ([], c)

/-- Passes all characters with a property up to the first without it. -/
def stepAll (p : Char → Bool) (c : Cursor) : List Char × Cursor :=
  stepWhile p c.rest.length c

end Cursor

end PitchDesk.Pattern
