import PitchDesk.Forest
import PitchDesk.Record.Basic

/-!
# The menu as a forest

Menu records come as a flat list in which each may name a parent by its id. `Menu.hierarchy` makes
a forest of them. The parent of a record is the first record with that id; a record that names
nobody, an unknown id or itself is a root; siblings stand in the order of their index, and those
with equal indexes as they came. Records that are their own ancestors are below no root and so do
not appear.

Records are told apart by their position in the list, because names and ids may repeat.
-/

namespace PitchDesk

namespace Menu

/-- A record with its position in the list that it came in. -/
abbrev Entry : Type := MenuRecord × Nat

/-- The records of a list with their positions. -/
def entries (records : List MenuRecord) : List Entry :=
  records.zipIdx

/-- The position of the first record with an id. -/
def positionOf? (es : List Entry) (id : Int64) : Option Nat :=
  (es.find? fun e ↦ e.1.id == some id).map (·.2)

/-- The position of the record that an entry stands below, unless it is a root. -/
def parent? (es : List Entry) (e : Entry) : Option Nat :=
  (e.1.parentId.bind (positionOf? es)).filter (· != e.2)

/-- The entries that stand below a position, or the roots. -/
def below (es pool : List Entry) (parent : Option Nat) : List Entry :=
  pool.filter fun e ↦ parent? es e == parent

/-- The entries that do not stand below a position. -/
def notBelow (es pool : List Entry) (parent : Option Nat) : List Entry :=
  pool.filter fun e ↦ parent? es e != parent

/-- Siblings in the order of their index; equal indexes keep their order. -/
def inOrder (siblings : List Entry) : List Entry :=
  siblings.mergeSort fun a b ↦ decide (a.1.orderIndex ≤ b.1.orderIndex)

theorem length_notBelow_lt (es pool : List Entry) (parent : Option Nat)
    (h : below es pool parent ≠ []) : (notBelow es pool parent).length < pool.length := by
  obtain ⟨e, he⟩ := List.exists_mem_of_ne_nil _ h
  simp only [below, List.mem_filter, beq_iff_eq] at he
  refine List.length_filter_lt_length_iff_exists.2 ⟨e, he.1, ?_⟩
  simp [he.2]

/-- The forest below a position, made of a pool of entries that are not placed yet. What stands at
one level is taken out of the pool for the levels below it. -/
def grow (es pool : List Entry) (parent : Option Nat) : Forest Entry :=
  if h : below es pool parent = [] then []
  else
    have := length_notBelow_lt es pool parent h
    -- the whole level leaves the pool at once, so no way down comes back to it
    (inOrder (below es pool parent)).map fun e ↦
      .node e (grow es (notBelow es pool parent) (some e.2))
termination_by pool.length

/-- The forest that a list of menu records describes. -/
def hierarchy (records : List MenuRecord) : Forest MenuRecord :=
  (grow (entries records) (entries records) none).map (·.1)

end Menu

end PitchDesk
