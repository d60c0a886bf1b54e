import PitchDesk.Json.Basic
import PitchDesk.Text.Decimal

/-!
# JSON tokens

The lexical level of JSON: punctuation, the three words, numbers and strings, with blanks between
them. Reading a string or a run of number characters always leaves a shorter rest, which is why
`Token.all?` ends.

A number is one run of the characters that numbers are made of, and only afterwards read as a
number; so what is no number is refused whole and not in part.
-/

namespace PitchDesk.Json

/-- A lexical element of a JSON text. -/
inductive Token where
  | openObject
  | closeObject
  | openArray
  | closeArray
  | colon
  | comma
  | null
  | bool (b : Bool)
  | number (n : Number)
  | string (s : List Piece)
  deriving DecidableEq, Repr

/-- The code unit that four hexadecimal digits denote. -/
def unitOf? (a b c d : Char) : Option Nat := do
  let a ← Text.hexValue? a
  let b ← Text.hexValue? b
  let c ← Text.hexValue? c
  let d ← Text.hexValue? d
  return ((a * 16 + b) * 16 + c) * 16 + d

/-- The character that a one-letter escape stands for. -/
def escaped? : Char → Option Char
  | '"' => some '"'
  | '\\' => some '\\'
  | '/' => some '/'
  | 'b' => some '\x08'
  | 'f' => some '\x0c'
  | 'n' => some '\n'
  | 'r' => some '\r'
  | 't' => some '\t'
  | _ => none

/-- Reads a string up to its closing quote and returns what follows. Control characters must be
escaped. -/
def readString? : List Char → Option (List Piece × List Char)
  | [] => none
  | '"' :: rest => some ([], rest)
  | '\\' :: 'u' :: a :: b :: c :: d :: rest => do
    let unit ← unitOf? a b c d
    let (pieces, rest) ← readString? rest
    return (.unit unit :: pieces, rest)
  | '\\' :: e :: rest => do
    let c ← escaped? e
    let (pieces, rest) ← readString? rest
    return (.char c :: pieces, rest)
  | c :: rest =>
    if c < ' ' ∨ c = '\\' then none
    else do
      let (pieces, rest) ← readString? rest
      return (.char c :: pieces, rest)

theorem length_of_readString? {cs : List Char} {pieces : List Piece} {rest : List Char}
    (h : readString? cs = some (pieces, rest)) : rest.length < cs.length := by
  fun_induction readString? cs generalizing pieces rest with
  | case1 => simp at h
  | case2 => simp at h; simp [← h.2]
  | case3 a b c d tail ih =>
    simp only [Option.bind_eq_bind, Option.bind_eq_some_iff] at h
    obtain ⟨_, _, ⟨p, r⟩, hr, h⟩ := h
    simp at h
    have := ih hr
    simp [← h.2]; omega
  | case4 e tail _ ih =>
    simp only [Option.bind_eq_bind, Option.bind_eq_some_iff] at h
    obtain ⟨_, _, ⟨p, r⟩, hr, h⟩ := h
    simp at h
    have := ih hr
    simp [← h.2]; omega
  | case5 => simp at h
  | case6 c tail _ _ _ _ ih =>
    simp only [Option.bind_eq_bind, Option.bind_eq_some_iff] at h
    obtain ⟨⟨p, r⟩, hr, h⟩ := h
    simp at h
    have := ih hr
    simp [← h.2]; omega

/-- The characters that numbers are made of. -/
def isNumberChar (c : Char) : Bool :=
  c.isDigit || c == '-' || c == '+' || c == '.' || c == 'e' || c == 'E'

/-- The number that some digits denote, most significant first. -/
def natOf (digits : List Char) : Nat :=
  digits.foldl (fun n c ↦ n * 10 + (c.toNat - '0'.toNat)) 0

/-- Reads the exponent of a number, which ends it. -/
def readExponent? (cs : List Char) : Option Int :=
  match cs with
  | '-' :: ds => if ds.isEmpty || !ds.all Char.isDigit then none else some (-(natOf ds : Int))
  | '+' :: ds => if ds.isEmpty || !ds.all Char.isDigit then none else some (natOf ds)
  | ds => if ds.isEmpty || !ds.all Char.isDigit then none else some (natOf ds)

/-- Reads what follows the whole part of a number. -/
def readFraction? (negative : Bool) (whole : List Char) : List Char → Option Number
  | [] => some ⟨negative, natOf whole, [], none⟩
  | '.' :: cs =>
    let digits := cs.takeWhile Char.isDigit
    let fraction := digits.map fun c ↦ c.toNat - '0'.toNat
    if digits.isEmpty then none
    else match cs.dropWhile Char.isDigit with
      | [] => some ⟨negative, natOf whole, fraction, none⟩
      | e :: rest =>
        if e = 'e' ∨ e = 'E' then
          (readExponent? rest).map fun x ↦ ⟨negative, natOf whole, fraction, some x⟩
        else none
  | e :: rest =>
    if e = 'e' ∨ e = 'E' then
      (readExponent? rest).map fun x ↦ ⟨negative, natOf whole, [], some x⟩
    else none

/-- Reads a number without its sign. Only a zero may start with a zero. -/
def readUnsigned? (negative : Bool) (cs : List Char) : Option Number :=
  let whole := cs.takeWhile Char.isDigit
  if whole.isEmpty || (whole.head? == some '0' && whole.length != 1) then none
  else readFraction? negative whole (cs.dropWhile Char.isDigit)

/-- Reads a number from its whole text. -/
def readNumber? : List Char → Option Number
  | '-' :: cs => readUnsigned? true cs
  | cs => readUnsigned? false cs

/-- The tokens of a text. -/
def Token.all? (cs : List Char) : Option (List Token) :=
  match cs with
  | [] => some []
  | ' ' :: rest | '\n' :: rest | '\t' :: rest | '\r' :: rest => Token.all? rest
  | '\x7b' :: rest => (Token.all? rest).map (.openObject :: ·)
  | '\x7d' :: rest => (Token.all? rest).map (.closeObject :: ·)
  | '[' :: rest => (Token.all? rest).map (.openArray :: ·)
  | ']' :: rest => (Token.all? rest).map (.closeArray :: ·)
  | ':' :: rest => (Token.all? rest).map (.colon :: ·)
  | ',' :: rest => (Token.all? rest).map (.comma :: ·)
  | 'n' :: 'u' :: 'l' :: 'l' :: rest => (Token.all? rest).map (.null :: ·)
  | 't' :: 'r' :: 'u' :: 'e' :: rest => (Token.all? rest).map (.bool true :: ·)
  | 'f' :: 'a' :: 'l' :: 's' :: 'e' :: rest => (Token.all? rest).map (.bool false :: ·)
  | '"' :: rest =>
    match hs : readString? rest with
    | none => none
    | some (pieces, rest') =>
      have := length_of_readString? hs
      (Token.all? rest').map (.string pieces :: ·)
  | c :: rest =>
    if isNumberChar c then
      match readNumber? (c :: rest.takeWhile isNumberChar) with
      | none => none
      | some n =>
        have := (List.dropWhile_sublist isNumberChar (l := rest)).length_le
        (Token.all? (rest.dropWhile isNumberChar)).map (.number n :: ·)
    else none
termination_by cs.length

end PitchDesk.Json
