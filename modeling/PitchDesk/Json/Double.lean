import PitchDesk.Json.Basic

/-!
# Numbers in double precision

A number that is no integer of 64 bits is kept in double precision: as a mantissa of 53 bits times a
power of two. It is made of as many of its digits as fit into 64 bits, and then multiplied or
divided by a power of ten. Each of these steps rounds to the nearest number in double precision, so
that the last bit of the result need not be the best one.
-/

namespace PitchDesk.Json

/-- A number in double precision that is not negative: a mantissa times a power of two. -/
structure Double where
  mantissa : Nat
  exponent : Int
  deriving DecidableEq, Repr

namespace Double

/-! ### Rounding -/

/-- A quotient rounded to the nearest integer. A half goes to the even neighbor. -/
def nearest (n d : Nat) : Nat :=
  let q := n / d
  let twice := 2 * (n % d)
  if twice < d then q else if d < twice then q + 1 else q + q % 2

/-- A fraction divided by a power of two, as numerator and denominator. -/
def shifted (n d : Nat) (exponent : Int) : Nat × Nat :=
  (n * Nat.pow 2 (-exponent).toNat, d * Nat.pow 2 exponent.toNat)

/-- The exponent that the mantissa of a fraction has 53 bits with, or the least one. -/
def exponentOf (n d : Nat) : Int :=
  let guess := (Nat.log2 n : Int) - Nat.log2 d - 52
  let (a, b) := shifted n d guess
  max (-1074) (if a < b * Nat.pow 2 52 then guess - 1 else guess)

/-- The number in double precision that is nearest to a fraction, unless it is too great. -/
def ofFraction? (n d : Nat) : Option Double :=
  if n = 0 then some ⟨0, 0⟩
  else
    let e := exponentOf n d
    let (a, b) := shifted n d e
    let m := nearest a b
    if Nat.pow 2 1024 ≤ m * Nat.pow 2 e.toNat then none else some ⟨m, e⟩

/-- The value as a fraction. -/
def fraction (x : Double) : Nat × Nat :=
  (x.mantissa * Nat.pow 2 x.exponent.toNat, Nat.pow 2 (-x.exponent).toNat)

/-- The product, unless it is too great. -/
def mul? (x y : Double) : Option Double :=
  ofFraction? (x.fraction.1 * y.fraction.1) (x.fraction.2 * y.fraction.2)

/-- The quotient, unless it is too great. -/
def div? (x y : Double) : Option Double :=
  ofFraction? (x.fraction.1 * y.fraction.2) (x.fraction.2 * y.fraction.1)

/-- A power of ten. -/
def tenTo? (k : Nat) : Option Double :=
  ofFraction? (Nat.pow 10 k) 1

/-! ### Powers of ten -/

/-- No greater power of ten is used in one step. -/
def greatestPower : Nat := 308

/-- A number divided by a power of ten. -/
def divideByTen? (x : Double) (k : Nat) : Option Double :=
  if k ≤ greatestPower then (tenTo? k).bind x.div?
  else if x.mantissa = 0 then some x
  else do
    let x ← (tenTo? greatestPower).bind x.div?
    divideByTen? x (k - greatestPower)
termination_by k
decreasing_by simp only [greatestPower] at *; omega

/-- A number times a power of ten, unless it is too great. -/
def scaled? (x : Double) (exponent : Int) : Option Double :=
  if exponent < 0 then divideByTen? x exponent.natAbs
  else if exponent ≤ greatestPower then (tenTo? exponent.toNat).bind x.mul?
  else if x.mantissa = 0 then some x
  else none

/-! ### Digits -/

/-- The digits after some digits that still fit into 64 bits with them, and how many are left. -/
def take (value : Nat) : List Nat → Nat × Nat
  | [] => (value, 0)
  | d :: ds =>
    if UInt64.size ≤ value * 10 + d then (value, ds.length + 1) else take (value * 10 + d) ds

/-- Exponents are written in 32 bits. A greater one is not added to anything. -/
def greatestExponent : Nat := 2147483647

/-- The number in double precision that a written number stands for, without its sign. -/
def ofNumber? (n : Number) : Option Double :=
  let (value, left) := take 0 ((toString n.whole).toList.map fun c ↦ c.toNat - '0'.toNat)
  let (value, ignored) := take value n.fraction
  let places : Int := left - (n.fraction.length - ignored : Nat)
  let exponent := n.exponent.getD 0
  if greatestExponent < exponent.natAbs then
    if 0 < exponent ∧ value ≠ 0 then none else some ⟨0, 0⟩
  else (ofFraction? value 1).bind (·.scaled? (exponent + places))

/-- A number in double precision as it is written: all its digits, and a power of ten. -/
def toNumber (negative : Bool) (x : Double) : Number :=
  if x.exponent < 0 then
    ⟨negative, x.mantissa * Nat.pow 5 x.exponent.natAbs, [], some x.exponent⟩
  else ⟨negative, x.mantissa * Nat.pow 2 x.exponent.toNat, [], some 0⟩

end Double

end PitchDesk.Json
