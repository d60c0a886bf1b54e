/-!
# Digits

Reading an unsigned number that must be below a bound, with the three ways in which this can fail,
and writing integers with a least number of digits. A number is one or more of the digits `0` to
`9`, with one optional `+` before them. Of hexadecimal numbers only the single digits are read here,
as escapes of all kinds put a fixed number of them together.

The bound is part of reading, since a number that is too great is a fault of its own and is found
while the digits are read, at the first that makes it too great.
-/

namespace PitchDesk.Text

/-- Why a text is not a number below the bound. -/
inductive NumberError where
  | empty
  | invalidDigit
  | tooLarge
  deriving DecidableEq, Repr

/-- The wording of each cause. -/
def NumberError.message : NumberError → String
  | .empty => "cannot parse integer from empty string"
  | .invalidDigit => "invalid digit found in string"
  | .tooLarge => "number too large to fit in target type"

/-- The value of a digit `0` to `9`. -/
def digitValue? (c : Char) : Option Nat :=
  if '0' ≤ c ∧ c ≤ '9' then some (c.toNat - '0'.toNat) else none

/-- The number that a list of digits denotes, most significant first, after the digits read so
far. -/
def digitsValue? (soFar : Nat) : List Char → Option Nat
  | [] => some soFar
  | c :: cs =>
    match digitValue? c with
    | some d => digitsValue? (soFar * 10 + d) cs
    | none => none

/-- The digits of a number text, without the optional `+`. A `+` that stands alone counts as a
digit, which it is not. -/
def unsigned : List Char → List Char
  | '+' :: d :: ds => d :: ds
  | cs => cs

/-- Reads a number below `bound`. Of two faults the one that stands first in the text is told: a
character that is no digit before the digits are too many, else the other way round. -/
def readDigits (bound : Nat) (soFar : Nat) : List Char → Except NumberError Nat
  | [] => .ok soFar
  | c :: cs =>
    match digitValue? c with
    | none => .error .invalidDigit
    | some d =>
      let n := soFar * 10 + d
      if n < bound then readDigits bound n cs else .error .tooLarge

/-- Reads an unsigned number below `bound`. -/
def readNumber (bound : Nat) (cs : List Char) : Except NumberError Nat :=
  if cs.isEmpty then .error .empty else readDigits bound 0 (unsigned cs)

/-- The digits of a number, with zeros before them up to a given length. -/
def padded (width n : Nat) : String :=
  let digits := toString n
  String.ofList (List.replicate (width - digits.length) '0') ++ digits

/-- The value of a hexadecimal digit. -/
def hexValue? (c : Char) : Option Nat :=
  if '0' ≤ c ∧ c ≤ '9' then some (c.toNat - '0'.toNat)
  else if 'a' ≤ c ∧ c ≤ 'f' then some (c.toNat - 'a'.toNat + 10)
  else if 'A' ≤ c ∧ c ≤ 'F' then some (c.toNat - 'A'.toNat + 10)
  else none

end PitchDesk.Text
