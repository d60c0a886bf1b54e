/-!
# Host names beyond ASCII

A label of a host name with characters beyond ASCII is written in ASCII: its ASCII characters, and
then the places and numbers of the others as numbers of variable length. The written form can be
read back.
-/

namespace PitchDesk.Url.Punycode

/-- The digits of the numbers: `a` to `z` and then `0` to `9`. -/
def digit (n : Nat) : Char :=
  if n < 26 then Char.ofNat ('a'.toNat + n) else Char.ofNat ('0'.toNat + (n - 26))

/-- The threshold of a digit at a position. -/
def threshold (bias position : Nat) : Nat :=
  max 1 (min 26 (position - bias))

theorem one_le_threshold (bias position : Nat) : 1 ≤ threshold bias position := by
  simp only [threshold]; omega

/-- A number of variable length, from some position on. -/
def number (bias position n : Nat) : List Char :=
  if h : n < threshold bias position then [digit n]
  else
    have := one_le_threshold bias position
    have := Nat.div_le_self (n - threshold bias position) (36 - threshold bias position)
    digit (threshold bias position +
        (n - threshold bias position) % (36 - threshold bias position)) ::
      number bias (position + 36)
        ((n - threshold bias position) / (36 - threshold bias position))
termination_by n

/-- Scales a distance down until it is small. -/
def scale (delta k : Nat) : Nat :=
  if 455 < delta then scale (delta / 35) (k + 36) else k + 36 * delta / (delta + 38)
termination_by delta

/-- The bias after a distance was written. -/
def adapt (delta points : Nat) (first : Bool) : Nat :=
  let delta := if first then delta / 700 else delta / 2
  scale (delta + delta / points) 0

/-- Where the writing of a label stands. -/
structure Progress where
  delta : Nat
  code : Nat
  bias : Nat
  handled : Nat
  out : List Char

/-- Passes one character of the label while those with some number are written. -/
def pass (basic code : Nat) (p : Progress) (c : Nat) : Progress :=
  if c < code then { p with delta := p.delta + 1 }
  else if c = code then
    { p with
      out := p.out ++ number p.bias 36 p.delta
      bias := adapt p.delta (p.handled + 1) (p.handled == basic)
      delta := 0
      handled := p.handled + 1 }
  else p

/-- Writes all characters with some number. -/
def round (label : List Nat) (basic : Nat) (p : Progress) (code : Nat) : Progress :=
  let p := { p with delta := p.delta + (code - p.code) * (p.handled + 1) }
  let p := label.foldl (pass basic code) p
  { p with delta := p.delta + 1, code := code + 1 }

/-! ### Writing -/

/-- What the written form of a label begins with. -/
def mark : List Char := ['x', 'n', '-', '-']

/-- The ASCII form of a label. -/
def encode (label : List Char) : List Char :=
  let codes := label.map Char.toNat
  let basic := label.filter (·.toNat < 0x80)
  let others := ((codes.filter (0x80 ≤ ·)).mergeSort (· ≤ ·)).eraseReps
  let start : Progress := ⟨0, 0x80, 72, basic.length, if basic.isEmpty then [] else basic ++ ['-']⟩
  mark ++ (others.foldl (round codes basic.length) start).out

/-! ### Reading -/

/-- The value of a digit. -/
def digitValue? (c : Char) : Option Nat :=
  if 'a' ≤ c ∧ c ≤ 'z' then some (c.toNat - 'a'.toNat)
  else if '0' ≤ c ∧ c ≤ '9' then some (c.toNat - '0'.toNat + 26)
  else none

/-- Where the reading of a label stands: the characters so far, the number of the last one that was
added, and the distance that is being read, which started at `start`. -/
structure Reading where
  out : List Char
  code : Nat
  bias : Nat
  start : Nat
  distance : Nat
  weight : Nat
  position : Nat

/-- No number that is read is greater. -/
def greatest : Nat := 4294967295

/-- Reads the characters beyond ASCII and puts each into its place. -/
def insertAll? (r : Reading) : List Char → Option (List Char)
  | [] => if r.position = 36 then some r.out else none
  | d :: ds => do
    let value ← digitValue? d
    let distance := r.distance + value * r.weight
    let t := threshold r.bias r.position
    if greatest < distance then none
    else if t ≤ value then
      let weight := r.weight * (36 - t)
      if greatest < weight then none
      else insertAll? { r with distance, weight, position := r.position + 36 } ds
    else
      let count := r.out.length + 1
      let code := r.code + distance / count
      let place := distance % count
      if code.isValidChar then
        insertAll?
          { out := r.out.insertIdx place (Char.ofNat code)
            code
            bias := adapt (distance - r.start) count (r.start == 0)
            start := place + 1
            distance := place + 1
            weight := 1
            position := 36 } ds
      else none

/-- The label that was written after the mark, if it has characters beyond ASCII. -/
def decode? (written : List Char) : Option (List Char) :=
  let digits := (written.reverse.takeWhile (· != '-')).reverse
  let basic := written.take (written.length - digits.length - 1)
  let isMarked := written.head? = some '-' && basic.isEmpty
  if digits.isEmpty || written.any (0x80 ≤ ·.toNat) || isMarked then none
  else insertAll? ⟨basic, 0x80, 72, 0, 0, 1, 36⟩ digits

end PitchDesk.Url.Punycode
