import PitchDesk.Text.Blank
import PitchDesk.Text.Decimal
import PitchDesk.Text.Quoted

/-!
# Durations

A span of time as settings give it: a number and one of the units `ms`, `s`, `m` and `h`, written
without a blank between them.

The number is read as one of 64 bits, and minutes and hours are multiplied to seconds afterwards.
The product can have more than 64 bits. What becomes of it then depends on how the program is built
(`Arithmetic`): with checks the program ends there, which is an outcome of its own beside a duration
and an error, and without them the product wraps around. The program runs with checks, so
`Duration.read` is reading with them; `Duration.readUnder` tells both.

The units are a table, and a text has the first one that it ends in; so the order of the table
matters.
-/

namespace PitchDesk

/-- A span of time in whole seconds and the milliseconds beyond them. -/
structure Duration where
  seconds : UInt64
  milliseconds : Nat
  deriving DecidableEq, Repr

/-- Why no duration comes of a text. A text that is not a duration is quoted without the blanks
around it. -/
inductive DurationError where
  | noUnit (raw : String)
  | badNumber (raw : String) (cause : Text.NumberError)
  /-- The seconds have more than 64 bits. This is not reported: the program ends. -/
  | overflow
  deriving DecidableEq, Repr

/-- The wording of each cause. -/
def DurationError.message : DurationError → String
  | .noUnit raw =>
    "invalid duration " ++ Text.quoted raw ++
      "; use one of: <N>ms, <N>s, <N>m, <N>h (for example 500ms or 10s)"
  | .badNumber raw cause => "invalid duration " ++ Text.quoted raw ++ ": " ++ cause.message
  | .overflow => "attempt to multiply with overflow"

/-- Whether the program ends where it comes upon this, instead of reporting it. -/
def DurationError.aborts (e : DurationError) : Bool :=
  e = .overflow

/-- How the program is built to multiply numbers of 64 bits. -/
inductive Arithmetic where
  /-- A product of more than 64 bits ends the program. -/
  | checked
  /-- Of a product only the last 64 bits are kept. -/
  | wrapping
  deriving DecidableEq, Repr

/-- The product of two numbers, or nothing where the program ends. -/
def Arithmetic.product? (a : Arithmetic) (m n : UInt64) : Option UInt64 :=
  match a with
  | .checked => if m.toNat * n.toNat < UInt64.size then some (m * n) else none
  | .wrapping => some (m * n)

namespace Duration

/-- The duration of some milliseconds. -/
def ofMilliseconds (n : Nat) : Duration := ⟨UInt64.ofNat (n / 1000), n % 1000⟩

/-- The duration of some seconds. -/
def ofSeconds (n : UInt64) : Duration := ⟨n, 0⟩

/-- Whether a duration is longer than none. -/
def isPositive (d : Duration) : Bool :=
  d.seconds != 0 || d.milliseconds != 0

/-- A duration in nanoseconds. -/
def nanoseconds (d : Duration) : Nat :=
  d.seconds.toNat * 1000000000 + d.milliseconds * 1000000

/-- The units, each with the duration of some of it, or nothing where the program ends. A unit that
ends like another stands before it. -/
def units (a : Arithmetic) : List (String × (UInt64 → Option Duration)) :=
  [("ms", fun n ↦ some (ofMilliseconds n.toNat)),
   ("s", fun n ↦ some (ofSeconds n)),
   ("m", fun n ↦ (a.product? n 60).map ofSeconds),
   ("h", fun n ↦ (a.product? n 3600).map ofSeconds)]

/-- Reads a text that has no blanks around it with the first of some units that it ends in. -/
def readWith (raw : String) :
    List (String × (UInt64 → Option Duration)) → Except DurationError Duration
  | [] => .error (.noUnit raw)
  | (unit, make) :: rest =>
    match Text.dropSuffix? unit.toList raw.toList with
    | none => readWith raw rest
    | some digits =>
      match Text.readNumber UInt64.size digits with
      | .error cause => .error (.badNumber raw cause)
      | .ok n => (make (.ofNat n)).elim (.error .overflow) .ok

/-- Reads a duration in a program that is built one way or the other. Blanks around it do not
count. -/
def readUnder (a : Arithmetic) (raw : String) : Except DurationError Duration :=
  readWith (Text.trim raw) (units a)

/-- Reads a duration. -/
def read (raw : String) : Except DurationError Duration :=
  readUnder .checked raw

end Duration

end PitchDesk
