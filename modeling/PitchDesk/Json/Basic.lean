/-!
# JSON values

A value as it is written: strings keep their `\u` escapes as UTF-16 code units, and numbers keep
whether they were written as integers. What a string or a number means is asked for separately,
because a member that nobody reads may hold an escape that stands for no character.
-/

namespace PitchDesk.Json

/-- One element of a string: a character, or a UTF-16 code unit written as an escape. -/
inductive Piece where
  | char (c : Char)
  | unit (n : Nat)
  deriving DecidableEq, Repr

/-- A number as it is written: its whole part, the digits after the point, if there is one, and the
power of ten to multiply by, if one is given. -/
structure Number where
  negative : Bool
  whole : Nat
  fraction : List Nat := []
  exponent : Option Int := none
  deriving DecidableEq, Repr

end PitchDesk.Json

namespace PitchDesk

/-- A JSON value. -/
inductive Json where
  | null
  | bool (b : Bool)
  | number (n : Json.Number)
  | string (s : List Json.Piece)
  | array (items : List Json)
  | object (members : List (List Json.Piece × Json))
  deriving Repr

namespace Json

/-- The string value that holds a text. -/
def text (s : String) : Json :=
  .string (s.toList.map .char)

/-- The number value that holds an integer. -/
def int (n : Int) : Json :=
  .number ⟨decide (n < 0), n.natAbs, [], none⟩

/-- The object value with the given members, in order. -/
def ofFields (fields : List (String × Json)) : Json :=
  .object (fields.map fun (name, value) ↦ (name.toList.map .char, value))

/-- A UTF-16 code unit that starts a pair. -/
def isLeading (n : Nat) : Bool :=
  0xD800 ≤ n && n < 0xDC00

/-- A UTF-16 code unit that ends a pair. -/
def isTrailing (n : Nat) : Bool :=
  0xDC00 ≤ n && n < 0xE000

/-- The characters that the pieces of a string stand for. A unit of a pair that stands alone stands
for no character. -/
def charsOf? : List Piece → Option (List Char)
  | [] => some []
  | .char c :: rest => (charsOf? rest).map (c :: ·)
  | .unit n :: .unit m :: rest =>
    if isLeading n then
      if isTrailing m then
        (charsOf? rest).map (Char.ofNat (0x10000 + (n - 0xD800) * 0x400 + (m - 0xDC00)) :: ·)
      else none
    else if isTrailing n then none
    else (charsOf? (.unit m :: rest)).map (Char.ofNat n :: ·)
  | .unit n :: rest =>
    if isLeading n || isTrailing n then none else (charsOf? rest).map (Char.ofNat n :: ·)

/-- The text that the pieces of a string stand for. -/
def textOf? (s : List Piece) : Option String :=
  (charsOf? s).map String.ofList

/-- The integer that a number is, if it was written as one. A minus sign before a zero does not
count as an integer. -/
def Number.int? (n : Number) : Option Int :=
  match n.fraction, n.exponent with
  | [], none =>
    if n.negative then (if n.whole = 0 then none else some (-(n.whole : Int)))
    else some n.whole
  | _, _ => none

mutual

/-- How deep arrays and objects stand in each other. -/
def depth : Json → Nat
  | .array items => depthOfItems items + 1
  | .object members => depthOfMembers members + 1
  | _ => 0

/-- The greatest depth among some values. -/
def depthOfItems : List Json → Nat
  | [] => 0
  | item :: items => max (depth item) (depthOfItems items)

/-- The greatest depth among the values of some members. -/
def depthOfMembers : List (List Piece × Json) → Nat
  | [] => 0
  | (_, value) :: members => max (depth value) (depthOfMembers members)

end

end Json

end PitchDesk
