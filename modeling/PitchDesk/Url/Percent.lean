import PitchDesk.Text.Decimal

/-!
# Percent-encoding

Characters that a part of a URL must not hold are written as `%` and two hexadecimal digits for each
byte of their UTF-8 form. Each part of a URL has its own set of such characters.
-/

namespace PitchDesk.Url

/-- Hexadecimal digits in upper case. -/
def hexDigit (n : Nat) : Char :=
  (Nat.digitChar (n % 16)).toUpper

/-- A byte as `%` and two digits. -/
def percentByte (b : UInt8) : List Char :=
  ['%', hexDigit (b.toNat / 16), hexDigit b.toNat]

/-- A character as the bytes of its UTF-8 form. -/
def percentChar (c : Char) : List Char :=
  (String.utf8EncodeChar c).flatMap percentByte

/-- A text with the characters of a set encoded. -/
def percentEncode (escaped : Char → Bool) (cs : List Char) : List Char :=
  cs.flatMap fun c ↦ if escaped c then percentChar c else [c]

/-- Controls and everything beyond ASCII are encoded everywhere. -/
def escapedAnywhere (c : Char) : Bool :=
  c.toNat < 0x20 || 0x7F ≤ c.toNat

/-- What is encoded in a fragment. -/
def escapedInFragment (c : Char) : Bool :=
  escapedAnywhere c || [' ', '"', '<', '>', '\x60'].contains c

/-- What is encoded in the query of a web address. -/
def escapedInQuery (c : Char) : Bool :=
  escapedAnywhere c || [' ', '"', '#', '<', '>', '\''].contains c

/-- What is encoded in a path that was given as a whole. -/
def escapedInPath (c : Char) : Bool :=
  escapedInFragment c || ['#', '?', '\x7b', '\x7d'].contains c

/-- What is encoded in a segment that is added to a path. -/
def escapedInSegment (c : Char) : Bool :=
  escapedInPath c || ['/', '%', '\\'].contains c

/-- What is encoded in the name and password of a user. -/
def escapedInUserInfo (c : Char) : Bool :=
  escapedInPath c || ['/', ':', ';', '=', '@', '[', '\\', ']', '^', '|'].contains c

/-- A value in a query as forms send it: a blank becomes a plus sign. -/
def formEncode (s : String) : List Char :=
  s.toList.flatMap fun c ↦
    if c = ' ' then ['+']
    else if c.isAlphanum || ['*', '-', '.', '_'].contains c then [c]
    else percentChar c

/-- The bytes that a text stands for. A percent sign without two digits stands for itself. -/
def percentDecode : List Char → List UInt8
  | [] => []
  | '%' :: a :: b :: rest =>
    match Text.hexValue? a, Text.hexValue? b with
    | some x, some y => UInt8.ofNat (x * 16 + y) :: percentDecode rest
    | _, _ => UInt8.ofNat '%'.toNat :: percentDecode (a :: b :: rest)
  | c :: rest => String.utf8EncodeChar c ++ percentDecode rest

end PitchDesk.Url
