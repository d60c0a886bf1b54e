import PitchDesk.Json.Basic
import PitchDesk.Text.Decimal

/-!
# Writing JSON

The compact form: no blanks, members in order, and in strings only what has to be escaped.

What is written is a value as it was given: members come in the order that they have, and the units
of a string that stand for no character are written as escapes.
-/

namespace PitchDesk.Json

/-- The hexadecimal digits of a code unit, four of them. -/
def hexUnit (n : Nat) : List Char :=
  [n / 0x1000 % 16, n / 0x100 % 16, n / 0x10 % 16, n % 16].map Nat.digitChar

/-- A character inside a string. -/
def writeChar (c : Char) : List Char :=
  match c with
  | '"' => ['\\', '"']
  | '\\' => ['\\', '\\']
  | '\x08' => ['\\', 'b']
  | '\x0c' => ['\\', 'f']
  | '\n' => ['\\', 'n']
  | '\r' => ['\\', 'r']
  | '\t' => ['\\', 't']
  | c => if c < ' ' then '\\' :: 'u' :: hexUnit c.toNat else [c]

/-- An element of a string. -/
def Piece.write : Piece → List Char
  | .char c => writeChar c
  | .unit n => '\\' :: 'u' :: hexUnit n

/-- A string with its quotes. -/
def writeString (s : List Piece) : List Char :=
  '"' :: s.flatMap Piece.write ++ ['"']

/-- The digits after the point, with the point, if there are any. -/
def writeFraction (fraction : List Nat) : List Char :=
  if fraction.isEmpty then [] else '.' :: fraction.map Nat.digitChar

/-- A number. -/
def Number.write (n : Number) : List Char :=
  (if n.negative then ['-'] else []) ++ (toString n.whole).toList ++ writeFraction n.fraction ++
    match n.exponent with
    | none => []
    | some x => 'e' :: (toString x).toList

mutual

/-- The compact text of a value. -/
def write : Json → List Char
  | .null => ['n', 'u', 'l', 'l']
  | .bool true => ['t', 'r', 'u', 'e']
  | .bool false => ['f', 'a', 'l', 's', 'e']
  | .number n => n.write
  | .string s => writeString s
  | .array items => '[' :: writeItems items
  | .object members => '\x7b' :: writeMembers members

/-- The items of an array and its closing bracket. -/
def writeItems : List Json → List Char
  | [] => [']']
  | [item] => write item ++ [']']
  | item :: items => write item ++ ',' :: writeItems items

/-- The members of an object and its closing brace. -/
def writeMembers : List (List Piece × Json) → List Char
  | [] => ['\x7d']
  | [(key, value)] => writeString key ++ ':' :: write value ++ ['\x7d']
  | (key, value) :: members =>
    writeString key ++ ':' :: write value ++ ',' :: writeMembers members

end

/-- The compact text of a value. -/
def toText (v : Json) : String :=
  String.ofList (write v)

end PitchDesk.Json
