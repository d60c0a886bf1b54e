/-!
# TOML documents

The values of a TOML document, and how a document grows while it is read. A table can be opened by a
header, be implied by the header of a table below it, arise from a dotted key, or be written in
line; how it came to be decides what may be added to it later. No table is opened twice and no key
is given twice.
-/

namespace PitchDesk

/-- How a table came to be. -/
inductive TableOrigin where
  | header
  | implied
  | dotted
  | inline
  deriving DecidableEq, Repr

/-- A TOML value. Of a floating-point number only its presence is kept; a date or time is kept as
its text. -/
inductive Toml where
  | text (value : String)
  | integer (value : Int64)
  | float
  | boolean (value : Bool)
  | moment (value : String)
  | array (items : List Toml)
  | table (origin : TableOrigin) (members : List (String × Toml))
  /-- The tables opened by headers in double brackets. -/
  | tables (items : List (List (String × Toml)))

namespace Toml

/-- The members of a table. -/
abbrev Members : Type := List (String × Toml)

/-- The value under a key. -/
def Members.get? (ms : Members) (key : String) : Option Toml :=
  ms.lookup key

/-- Changes the value under a key, or adds one, unless that is refused. -/
def Members.alter? (key : String) (f : Option Toml → Option Toml) : Members → Option Members
  | [] => (f none).map fun v ↦ [(key, v)]
  | m :: ms =>
    if m.1 = key then (f (some m.2)).map fun v ↦ (key, v) :: ms
    else (alter? key f ms).map (m :: ·)

/-- Changes the last of some tables. -/
def changeLast? (f : Members → Option Members) : List Members → Option (List Members)
  | [] => none
  | [t] => (f t).map ([·])
  | t :: ts => (changeLast? f ts).map (t :: ·)

/-- Changes the table that the keys of a header lead to. Tables on the way are implied; of tables in
double brackets the last one is meant. -/
def within? : List String → (Members → Option Members) → Members → Option Members
  | [], f, ms => f ms
  | key :: keys, f, ms =>
    ms.alter? key fun
      | none => (within? keys f []).map (.table .implied)
      | some (.table origin inner) =>
        if origin = .inline then none else (within? keys f inner).map (.table origin)
      | some (.tables items) => (changeLast? (within? keys f) items).map .tables
      | some _ => none

/-- Opens a table by a header. A table that was only implied may still be opened. -/
def openTable? (above : List String) (key : String) : Members → Option Members :=
  within? above fun ms ↦ ms.alter? key fun
    | none => some (.table .header [])
    | some (.table .implied inner) => some (.table .header inner)
    | some _ => none

/-- Opens one more table by a header in double brackets. -/
def openItem? (above : List String) (key : String) : Members → Option Members :=
  within? above fun ms ↦ ms.alter? key fun
    | none => some (.tables [[]])
    | some (.tables items) => some (.tables (items ++ [[]]))
    | some _ => none

/-- Gives a key a value. `dotted` tells whether the key stands after a dot: then, and only then, its
table must have come from a dotted key. -/
def give? (dotted : Bool) (origin : TableOrigin) (key : String) (value : Toml) (ms : Members) :
    Option Members :=
  if dotted && origin != .dotted then none
  else ms.alter? key fun
    | none => some value
    | some _ => none

/-- Gives a key that stands after some other keys and dots a value. A table that was opened by a
header or written in line is not added to. -/
def assign? (origin : TableOrigin) (dotted : Bool) :
    List String → String → Toml → Members → Option Members
  | [], key, value, ms => give? dotted origin key value ms
  | k :: ks, key, value, ms =>
    ms.alter? k fun
      | none => (assign? .dotted true ks key value []).map (.table .dotted)
      | some (.table .implied inner) =>
        (assign? .implied true ks key value inner).map (.table .implied)
      | some (.table .dotted inner) =>
        (assign? .dotted true ks key value inner).map (.table .dotted)
      | some (.tables items) =>
        (changeLast? (assign? .header true ks key value) items).map .tables
      | some _ => none

end Toml

end PitchDesk
