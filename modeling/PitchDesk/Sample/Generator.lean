/-!
# A generator of numbers

Numbers that look random and are the same for the same seed. The state is multiplied and added to
modulo 2⁶⁴, and each number is the state mixed by three shifts.

The state is a word and every word has a next one, so a generator never runs out of numbers, and
two generators of one seed give the same numbers for ever. A number below a bound is what is left
of a draw when it is divided; that all numbers come equally often is not claimed.
-/

namespace PitchDesk.Sample

/-- The state of a generator. -/
structure Generator where
  state : UInt64
  deriving DecidableEq, Repr

namespace Generator

/-- The generator of a seed. No seed gives the state zero. -/
def ofSeed (seed : UInt64) : Generator :=
  let state := seed ^^^ 0x9E3779B97F4A7C15
  ⟨if state = 0 then 0xA4093822299F31D0 else state⟩

/-- The number of a state. -/
def mix (x : UInt64) : UInt64 :=
  let x := x ^^^ (x >>> 13)
  let x := x ^^^ (x <<< 7)
  x ^^^ (x >>> 17)

/-- The next number. -/
def next (g : Generator) : UInt64 × Generator :=
  let state := g.state * 6364136223846793005 + 1442695040888963407
  (mix state, ⟨state⟩)

/-- The next number modulo `n`. No number is drawn if there is no choice. -/
def below (n : Nat) (g : Generator) : Nat × Generator :=
  if n ≤ 1 then (0, g)
  else
    let (x, g) := g.next
    (x.toNat % n, g)

/-- The next number as a choice of two. -/
def coin (g : Generator) : Bool × Generator :=
  let (x, g) := g.next
  (x &&& 1 == 1, g)

end Generator

end PitchDesk.Sample
