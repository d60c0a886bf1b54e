import PitchDesk.Pattern.Escape

/-!
# Reading sets of characters

What stands in brackets: characters, ranges, kinds of characters, sets inside the set, and sets
joined by doubled signs. A closing bracket at the beginning stands for itself, and so do minus signs
there.
-/

namespace PitchDesk.Pattern

/-- A set that is being read. -/
structure SetDraft where
  /-- The columns of its opening. -/
  opening : Span
  negated : Bool
  /-- The part before the last doubled sign. -/
  left : Option CharSet
  /-- The column after the last doubled sign. -/
  origin : Nat
  /-- The parts since, the last one first. -/
  parts : List CharSet

namespace SetDraft

/-- Adds a part. -/
def add (d : SetDraft) (part : CharSet) : SetDraft :=
  { d with parts := part :: d.parts }

/-- The parts since the last doubled sign as a set. -/
def right (d : SetDraft) : CharSet :=
  match d.parts.reverse with
  | [] => .empty ⟨d.origin, d.origin⟩
  | [part] => part
  | part :: parts =>
    .union (part.span.through ((d.parts.head?.getD part).span)) (part :: parts)

/-- All parts as a set. -/
def whole (d : SetDraft) : CharSet :=
  match d.left with
  | none => d.right
  | some left => .combined left d.right

/-- Begins the part after a doubled sign. -/
def join (d : SetDraft) (column : Nat) : SetDraft :=
  { d with left := some d.whole, origin := column, parts := [] }

end SetDraft

/-- A character in a set that stands for itself. -/
def plain (c : Cursor) (x : Char) : CharSet :=
  .atom (.literal ⟨c.next, x, false⟩)

/-- Reads the minus signs at the beginning of a set, at most some. -/
def readMinuses (d : SetDraft) : Nat → Cursor → SetDraft × Cursor
  | 0, c => (d, c)
  | n + 1, c =>
    if c.rest.head? = some '-' then readMinuses (d.add (plain c '-')) n c.step else (d, c)

/-- Reads the opening of a set, with what stands for itself at its beginning. -/
def readSetOpening (c : Cursor) : Except Fault (SetDraft × Cursor) := do
  let first := c.column
  let c := c.step
  if c.rest.isEmpty then throw (.of (c.since first) .openSet)
  let negated := c.rest.head? = some '^'
  let c := if negated then c.step else c
  if c.rest.isEmpty then throw (.of (c.since first) .openSet)
  let (draft, c) := readMinuses ⟨c.here, negated, none, c.column, []⟩ c.rest.length c
  if c.rest.isEmpty then throw (.of ⟨first, first⟩ .openSet)
  if draft.parts.isEmpty && c.rest.head? = some ']' then
    let d := c.step
    if d.rest.isEmpty then throw (.of (d.since first) .openSet)
    return ({ draft.add (plain c ']') with opening := d.since first }, d)
  return ({ draft with opening := c.since first }, c)

/-- The sets that have names. -/
def setNames : List String :=
  ["alnum", "alpha", "ascii", "blank", "cntrl", "digit", "graph", "lower", "print", "punct",
    "space", "upper", "word", "xdigit"]

/-- Reads the name of a set between colons in brackets, if that is what follows. -/
def readNamed? (c : Cursor) : Option (CharSet × Cursor) := do
  let inside ← Text.dropPrefix? ['[', ':'] c.rest
  let negated := inside.head? == some '^'
  let (name, after) := (if negated then inside.drop 1 else inside).span (· != ':')
  let after ← Text.dropPrefix? [':', ']'] after
  if setNames.contains (String.ofList name) then
    let d := c.drop (c.rest.length - after.length)
    return (.named (d.since c.column) negated, d)
  failure

/-- Reads an element of a set. -/
def readElement (c : Cursor) : Except Fault (Atom × Cursor) :=
  match c.rest with
  | '\\' :: _ => readEscape c
  | x :: _ => .ok (.literal ⟨c.next, x, false⟩, c.drop 1)
  | [] => .error (.of c.here .openSet)

/-- An element as a part of a set. A place in the text is none. -/
def asPart : Atom → Except Fault CharSet
  | .anchor span | .boundary span => .error (.of span .escapeInSet)
  | a => .ok (.atom a)

/-- An element as an end of a range. -/
def asEnd : Atom → Except Fault Literal
  | .literal l => .ok l
  | a => .error (.of a.span .rangeEnd)

/-- Reads an element of a set or a range. A minus sign before a closing bracket or another minus
sign makes no range. -/
def readRange (opening : Span) (c : Cursor) : Except Fault (CharSet × Cursor) := do
  let (first, c) ← readElement c
  let c := c.settle
  match c.rest with
  | [] => throw (.of opening .openSet)
  | '-' :: _ =>
    let d := c.step
    if d.rest.head? = some ']' ∨ d.rest.head? = some '-' then return (← asPart first, c)
    if d.rest.isEmpty then throw (.of opening .openSet)
    let (last, d) ← readElement d
    let low ← asEnd first
    let high ← asEnd last
    if high.char < low.char then throw (.of (low.span.through high.span) .rangeOrder)
    return (.range low high, d)
  | _ => return (← asPart first, c)

/-- Reads a set after its opening, in at most some steps. -/
def readSet (draft : SetDraft) (c : Cursor) : Nat → Except Fault (CharSet × Cursor)
  | 0 => .error (.of draft.opening .openSet)
  | n + 1 => do
    let c := c.settle
    match c.rest with
    | [] => throw (.of draft.opening .openSet)
    | ']' :: _ =>
      let d := c.drop 1
      return (.bracketed (d.since draft.opening.start) draft.negated draft.whole, d)
    | '&' :: '&' :: _ | '-' :: '-' :: _ | '~' :: '~' :: _ =>
      let d := c.drop 2
      readSet (draft.join d.column) d n
    | '[' :: _ =>
      match readNamed? c with
      | some (named, d) => readSet (draft.add named) d n
      | none =>
        let (inner, d) ← readSetOpening c
        let (inner, d) ← readSet inner d n
        readSet (draft.add inner) d n
    | _ =>
      let (part, d) ← readRange draft.opening c
      readSet (draft.add part) d n

end PitchDesk.Pattern
