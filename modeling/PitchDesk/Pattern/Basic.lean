/-!
# Patterns

The regular expressions that log filters compare fields with, as they are written. Each part keeps
the columns that it was read from, so that a fault can be pointed at.

A pattern is read out of a list of fields in braces, so it holds no comma, no equals sign and no
closing brace. A brace that opens in a pattern therefore never closes.
-/

namespace PitchDesk

namespace Pattern

/-- The columns of a part: its first, and the one after its last. -/
structure Span where
  start : Nat
  stop : Nat
  deriving DecidableEq, Repr

/-- The columns from the beginning of one part to the end of another. -/
def Span.through (a b : Span) : Span := ⟨a.start, b.stop⟩

/-- A character that stands for itself, or is given by the number of its byte. -/
structure Literal where
  span : Span
  char : Char
  isByte : Bool
  deriving DecidableEq, Repr

/-- An element without parts. -/
inductive Atom where
  | literal (l : Literal)
  | dot (span : Span)
  | anchor (span : Span)
  | boundary (span : Span)
  | kind (span : Span) (negated : Bool)
  | property (span : Span)
  deriving DecidableEq, Repr

/-- The columns of an element. -/
def Atom.span : Atom → Span
  | .literal l => l.span
  | .dot span | .anchor span | .boundary span | .kind span _ | .property span => span

/-- A set of characters. -/
inductive CharSet where
  | empty (span : Span)
  | atom (a : Atom)
  | range (first last : Literal)
  | named (span : Span) (negated : Bool)
  | bracketed (span : Span) (negated : Bool) (inner : CharSet)
  | union (span : Span) (parts : List CharSet)
  | combined (left right : CharSet)

/-- The columns of a set. -/
def CharSet.span : CharSet → Span
  | .atom a => a.span
  | .range first last => first.span.through last.span
  | .empty span | .named span _ | .bracketed span _ _ | .union span _ => span
  | .combined left right => left.span.through right.span

/-- A flag that is switched on, or off after a minus sign, which counts as a change too. -/
structure Change where
  flag : Char
  span : Span
  deriving DecidableEq, Repr

/-- Whether some changes switch a flag on or off. -/
def switched? (flag : Char) (changes : List Change) : Option Bool :=
  let before := changes.takeWhile (·.flag != flag)
  if before.length < changes.length then some (!before.any (·.flag == '-')) else none

end Pattern

open Pattern in
/-- A pattern. -/
inductive Pattern where
  | empty (span : Span)
  | atom (a : Atom)
  | flags (span : Span) (changes : List Change)
  | set (s : CharSet)
  | repeated (span : Span) (p : Pattern)
  | group (span : Span) (changes : List Change) (p : Pattern)
  | sequence (span : Span) (parts : List Pattern)
  | choice (span : Span) (branches : List Pattern)

namespace Pattern

/-- The columns of a pattern. -/
def span : Pattern → Span
  | .atom a => a.span
  | .set s => s.span
  | .empty span | .flags span _ | .repeated span _ | .group span _ _ | .sequence span _
  | .choice span _ => span

end Pattern

end PitchDesk
