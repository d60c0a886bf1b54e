import PitchDesk.Calendar
import PitchDesk.Text.Blank
import PitchDesk.Text.Decimal
import PitchDesk.Toml.Basic

/-!
# Scalars of TOML documents

Strings in their four forms, numbers, and dates and times. A string is read from the front of a
text, and the rest of the text is given back; everything else is read from a token that was cut out
before.
-/

namespace PitchDesk.Toml

/-! ### Strings -/

/-- Characters that stand for themselves in strings and comments: all but the control characters,
of which only the tab may stand there. -/
def isPlain (c : Char) : Bool :=
  c == '\t' || (0x20 ≤ c.toNat && c.toNat != 0x7F)

/-- The character that a letter stands for after a backslash. -/
def escaped? : Char → Option Char
  | '"' => some '"'
  | '\\' => some '\\'
  | 'b' => some '\x08'
  | 'e' => some '\x1B'
  | 'f' => some '\x0C'
  | 'n' => some '\n'
  | 'r' => some '\r'
  | 't' => some '\t'
  | _ => none

/-- The value of a digit in a base up to sixteen. -/
def digit? (base : Nat) (c : Char) : Option Nat :=
  let n :=
    if '0' ≤ c ∧ c ≤ '9' then c.toNat - '0'.toNat
    else if 'a' ≤ c ∧ c ≤ 'f' then c.toNat - 'a'.toNat + 10
    else if 'A' ≤ c ∧ c ≤ 'F' then c.toNat - 'A'.toNat + 10
    else base
  if n < base then some n else none

/-- The number that digits denote in a base, after the digits read so far. -/
def natOf? (base soFar : Nat) : List Char → Option Nat
  | [] => some soFar
  | c :: cs => (digit? base c).bind fun d ↦ natOf? base (soFar * base + d) cs

/-- The character with a number written in hexadecimal digits. -/
def charOf? (digits : List Char) : Option Char := do
  let n ← natOf? 16 0 digits
  if n.isValidChar then some (Char.ofNat n) else none

/-- Puts a character before the string that was read from what follows it. -/
def push (c : Char) (r : Option (List Char × List Char)) : Option (List Char × List Char) :=
  r.map fun (s, rest) ↦ (c :: s, rest)

/-- The rest of a basic string on one line. -/
def basic? : List Char → Option (List Char × List Char)
  | [] => none
  | '"' :: cs => some ([], cs)
  | '\\' :: 'x' :: a :: b :: cs => (charOf? [a, b]).bind (push · (basic? cs))
  | '\\' :: 'u' :: a :: b :: c :: d :: cs => (charOf? [a, b, c, d]).bind (push · (basic? cs))
  | '\\' :: 'U' :: a :: b :: c :: d :: e :: f :: g :: h :: cs =>
    (charOf? [a, b, c, d, e, f, g, h]).bind (push · (basic? cs))
  | '\\' :: c :: cs => (escaped? c).bind (push · (basic? cs))
  | c :: cs => if isPlain c then push c (basic? cs) else none

/-- The rest of a literal string on one line. -/
def literal? : List Char → Option (List Char × List Char)
  | [] => none
  | '\'' :: cs => some ([], cs)
  | c :: cs => if isPlain c then push c (literal? cs) else none

/-- Blanks within a line. -/
def isGap (c : Char) : Bool := c == ' ' || c == '\t'

/-- Whether only blanks stand before the end of the line. -/
def endsLine (cs : List Char) : Bool :=
  match cs.dropWhile isGap with
  | '\n' :: _ => true
  | '\r' :: '\n' :: _ => true
  | _ => false

/-- The rest of a basic string on many lines. After a backslash at the end of a line, `skipping`,
all blanks and line ends are left out. One or two quotes may stand right before the closing three.
-/
def basicLines? (skipping : Bool) : List Char → Option (List Char × List Char)
  | [] => none
  | '"' :: '"' :: '"' :: '"' :: '"' :: cs => some (['"', '"'], cs)
  | '"' :: '"' :: '"' :: '"' :: cs => some (['"'], cs)
  | '"' :: '"' :: '"' :: cs => some ([], cs)
  | '\r' :: '\n' :: cs =>
    if skipping then basicLines? true cs else push '\r' (push '\n' (basicLines? false cs))
  | '\n' :: cs => if skipping then basicLines? true cs else push '\n' (basicLines? false cs)
  | '\\' :: 'x' :: a :: b :: cs => (charOf? [a, b]).bind (push · (basicLines? false cs))
  | '\\' :: 'u' :: a :: b :: c :: d :: cs =>
    (charOf? [a, b, c, d]).bind (push · (basicLines? false cs))
  | '\\' :: 'U' :: a :: b :: c :: d :: e :: f :: g :: h :: cs =>
    (charOf? [a, b, c, d, e, f, g, h]).bind (push · (basicLines? false cs))
  | '\\' :: c :: cs =>
    match escaped? c with
    | some e => push e (basicLines? false cs)
    | none =>
      if endsLine (c :: cs) && (isGap c || c == '\n') then basicLines? true cs
      else if c == '\r' && endsLine (c :: cs) then basicLines? true cs
      else none
  | c :: cs =>
    if skipping && isGap c then basicLines? true cs
    else if isPlain c then push c (basicLines? false cs)
    else none

/-- The rest of a literal string on many lines. -/
def literalLines? : List Char → Option (List Char × List Char)
  | [] => none
  | '\'' :: '\'' :: '\'' :: '\'' :: '\'' :: cs => some (['\'', '\''], cs)
  | '\'' :: '\'' :: '\'' :: '\'' :: cs => some (['\''], cs)
  | '\'' :: '\'' :: '\'' :: cs => some ([], cs)
  | '\r' :: '\n' :: cs => push '\r' (push '\n' (literalLines? cs))
  | '\n' :: cs => push '\n' (literalLines? cs)
  | c :: cs => if isPlain c then push c (literalLines? cs) else none

/-- A line end right after the three opening quotes does not count. -/
def afterOpening : List Char → List Char
  | '\n' :: cs => cs
  | '\r' :: '\n' :: cs => cs
  | cs => cs

/-- Reads a string on one line. -/
def line? : List Char → Option (List Char × List Char)
  | '"' :: cs => basic? cs
  | '\'' :: cs => literal? cs
  | _ => none

/-- Reads a string of any form. -/
def string? : List Char → Option (List Char × List Char)
  | '"' :: '"' :: '"' :: cs => basicLines? false (afterOpening cs)
  | '\'' :: '\'' :: '\'' :: cs => literalLines? (afterOpening cs)
  | cs => line? cs

/-! ### Numbers -/

/-- The digits of a number in which single underscores may stand between digits. -/
def ungrouped? (base : Nat) : List Char → Option (List Char)
  | [] => none
  | [d] => if (digit? base d).isSome then some [d] else none
  | d :: '_' :: cs =>
    if (digit? base d).isSome then (ungrouped? base cs).map (d :: ·) else none
  | d :: cs => if (digit? base d).isSome then (ungrouped? base cs).map (d :: ·) else none

/-- A number with its sign split off. -/
def signed : List Char → Bool × List Char
  | '-' :: cs => (true, cs)
  | '+' :: cs => (false, cs)
  | cs => (false, cs)

/-- Decimal digits without a zero before others. -/
def decimal? (cs : List Char) : Option (List Char) := do
  let ds ← ungrouped? 10 cs
  if 1 < ds.length && ds.head? == some '0' then none else some ds

/-- An integer of 64 bits. -/
def integerOf? (n : Int) : Option Toml :=
  if Int64.minValue.toInt ≤ n ∧ n ≤ Int64.maxValue.toInt then some (.integer (.ofInt n)) else none

/-- Reads an integer. Only a decimal one has a sign. -/
def integer? (token : List Char) : Option Toml := do
  match token with
  | '0' :: 'x' :: cs => integerOf? (← natOf? 16 0 (← ungrouped? 16 cs))
  | '0' :: 'o' :: cs => integerOf? (← natOf? 8 0 (← ungrouped? 8 cs))
  | '0' :: 'b' :: cs => integerOf? (← natOf? 2 0 (← ungrouped? 2 cs))
  | _ =>
    let (negative, cs) := signed token
    let n ← natOf? 10 0 (← decimal? cs)
    integerOf? (if negative then -n else n)

/-- From this number on a number is too large for a floating-point number of 64 bits. -/
def floatBound : Nat := Nat.pow 2 1024 - Nat.pow 2 970

/-- Whether `m` times the power of ten with exponent `e` is below the bound. -/
def isFinite (m : Nat) (e : Int) : Bool :=
  if m = 0 then true
  else if 400 < e then false
  else if 0 ≤ e then m * Nat.pow 10 e.toNat < floatBound
  else if (toString m).length ≤ (-e).toNat then true
  else m < floatBound * Nat.pow 10 (-e).toNat

/-- The parts of a number before and after the mark of its exponent. -/
def mantissaAndExponent (cs : List Char) : List Char × Option (List Char) :=
  match cs.span fun c ↦ c != 'e' && c != 'E' with
  | (m, _ :: e) => (m, some e)
  | (m, []) => (m, none)

/-- Reads a floating-point number: a decimal number with a fraction, an exponent or both, or the
name of infinity or of no number. -/
def float? (token : List Char) : Option Toml := do
  let (_, cs) := signed token
  if cs == ['i', 'n', 'f'] || cs == ['n', 'a', 'n'] then return .float
  let (mantissa, exponent) := mantissaAndExponent cs
  let (whole, fraction) ← match mantissa.span (· != '.') with
    | (whole, _ :: fraction) => do pure (← decimal? whole, ← ungrouped? 10 fraction)
    | (whole, []) => if exponent.isNone then none else do pure (← decimal? whole, [])
  let e : Int ← match exponent with
    | none => some 0
    | some e => do
      let (negative, ds) := signed e
      let n ← natOf? 10 0 (← ungrouped? 10 ds)
      pure (if negative then -(n : Int) else n)
  if isFinite (← natOf? 10 0 (whole ++ fraction)) (e - fraction.length) then some .float else none

/-! ### Dates and times -/

/-- Reads a number of two digits below a bound. -/
def twoDigits? (bound : Nat) (a b : Char) : Option Nat := do
  let n ← natOf? 10 0 [a, b]
  if n < bound then some n else none

/-- Reads a fraction of a second, if there is one. It is kept to nine places, without the zeros at
its end, and not at all if it is zero. -/
def fraction? (cs : List Char) : Option (List Char × List Char) :=
  match cs with
  | '.' :: ds =>
    let (digits, rest) := ds.span Char.isDigit
    if digits.isEmpty then none
    else
      let kept := Text.dropEndWhile (· == '0') (digits.take 9)
      some (if kept.isEmpty then [] else '.' :: kept, rest)
  | cs => some ([], cs)

/-- Reads a time of day from the front. Seconds that are missing are zero. -/
def time? : List Char → Option (List Char × List Char)
  | a :: b :: ':' :: c :: d :: cs => do
    let _ ← twoDigits? 24 a b
    let _ ← twoDigits? 60 c d
    match cs with
    | ':' :: e :: f :: cs =>
      let _ ← twoDigits? 61 e f
      let (fraction, rest) ← fraction? cs
      return (a :: b :: ':' :: c :: d :: ':' :: e :: f :: fraction, rest)
    | cs => return ([a, b, ':', c, d, ':', '0', '0'], cs)
  | _ => none

/-- Reads the distance from universal time at the end of a date and time; there may be none. A
distance of nothing is written with a plus sign. -/
def offset? : List Char → Option (List Char)
  | [] => some []
  | [z] => if z == 'Z' || z == 'z' then some ['Z'] else none
  | [sign, a, b, ':', c, d] => do
    let hours ← twoDigits? 24 a b
    let minutes ← twoDigits? 60 c d
    let kept := if hours + minutes = 0 then '+' else sign
    if sign == '+' || sign == '-' then some [kept, a, b, ':', c, d] else none
  | _ => none

/-- Reads a date from the front. -/
def date? : List Char → Option (List Char × List Char)
  | a :: b :: c :: d :: '-' :: e :: f :: '-' :: g :: h :: cs => do
    let year ← natOf? 10 0 [a, b, c, d]
    let month ← natOf? 10 0 [e, f]
    let day ← natOf? 10 0 [g, h]
    let _ ← Date.of? year month day
    return ([a, b, c, d, '-', e, f, '-', g, h], cs)
  | _ => none

/-- Reads a date, a time, or both with or without an offset. -/
def moment? (token : List Char) : Option Toml := do
  match date? token with
  | some (date, []) => return .moment (String.ofList date)
  | some (date, t :: cs) =>
    if t != 'T' && t != 't' && t != ' ' then none
    else
      let (time, rest) ← time? cs
      return .moment (String.ofList (date ++ 'T' :: time ++ (← offset? rest)))
  | none =>
    match ← time? token with
    | (time, []) => return .moment (String.ofList time)
    | _ => none

/-! ### Tokens -/

/-- Characters of a token. -/
def isTokenChar (c : Char) : Bool :=
  c.isAlphanum || ['_', '+', '-', '.', ':'].contains c

/-- Cuts a token from the front. A date may be followed by a blank and a time. -/
def cutToken (cs : List Char) : List Char × List Char :=
  let (token, rest) := cs.span isTokenChar
  match date? token, rest with
  | some (_, []), ' ' :: d :: more =>
    if d.isDigit then
      let (time, rest) := (d :: more).span isTokenChar
      (token ++ ' ' :: time, rest)
    else (token, rest)
  | _, _ => (token, rest)

/-- The value of a token. -/
def ofToken? (token : List Char) : Option Toml :=
  if token == ['t', 'r', 'u', 'e'] then some (.boolean true)
  else if token == ['f', 'a', 'l', 's', 'e'] then some (.boolean false)
  else (integer? token).or <| (float? token).or (moment? token)

end PitchDesk.Toml
