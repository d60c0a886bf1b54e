import Mathlib.Data.Fintype.EquivFin
import Mathlib.Order.WellFounded
import PitchDesk.Menu.Hierarchy

/-!
# Parents of menu records

Which record of a list stands below which, told by positions alone. A record names its parent by an
id, and the first record with that id is meant, `Names` and `parentAt?`; who names nobody, an
unknown id or itself has no parent. A position is `Rooted` if the way up from it ends. The ways up
that do not end are those that run into a cycle: `rooted_of_acyclic`.

Positions are used and not records or ids, since a list may hold the same record twice, and ids may
repeat or be missing. The entries that a menu is built from are records with their positions, so
each of them is known by its position (`eq_of_mem_entries`), and the last section carries what is
known of positions over to entries.
-/

namespace PitchDesk.Menu

variable {records : List MenuRecord} {i j : Nat}

/-- The position of the first record with an id. -/
def firstWithId? (records : List MenuRecord) (id : Int64) : Option Nat :=
  records.findIdx? fun r ↦ r.id == some id

/-- The position of the record that the record at a position stands below. -/
def parentAt? (records : List MenuRecord) (i : Nat) : Option Nat :=
  ((records[i]?.bind (·.parentId)).bind (firstWithId? records)).filter (· != i)

/-- The way up from a position ends at a record without a parent. -/
inductive Rooted (records : List MenuRecord) : Nat → Prop
  | root {i : Nat} (hi : i < records.length) (h : parentAt? records i = none) : Rooted records i
  | child {i j : Nat} (h : parentAt? records i = some j) (hj : Rooted records j) : Rooted records i

/-- No way up comes back to where it began. -/
def Acyclic (records : List MenuRecord) : Prop :=
  ∀ i, ¬ Relation.TransGen (fun i j ↦ parentAt? records i = some j) i i

/-- A position with a parent is one of the list, and so is the parent. -/
theorem lt_length_of_parentAt? (h : parentAt? records i = some j) :
    i < records.length ∧ j < records.length := by
  rw [parentAt?, Option.filter_eq_some_iff, Option.bind_eq_some_iff] at h
  obtain ⟨⟨id, hid, hj⟩, -⟩ := h
  obtain ⟨r, hr, -⟩ := Option.bind_eq_some_iff.1 hid
  obtain ⟨hlt, -⟩ := List.findIdx?_eq_some_iff_getElem.1 hj
  exact ⟨(List.getElem?_eq_some_iff.1 hr).1, hlt⟩

/-- Only positions of the list are rooted. -/
theorem Rooted.lt_length (h : Rooted records i) : i < records.length := by
  cases h with
  | root hi _ => exact hi
  | child h _ => exact (lt_length_of_parentAt? h).1

/-- If some number goes down on every way up, none comes back. -/
theorem acyclic_of_lt (height : Nat → Nat)
    (h : ∀ i j, parentAt? records i = some j → height j < height i) : Acyclic records := by
  have hlt {i j : Nat} (hij : Relation.TransGen (fun i j ↦ parentAt? records i = some j) i j) :
      height j < height i := by
    induction hij with
    | single hij => exact h _ _ hij
    | tail _ hjk ih => exact (h _ _ hjk).trans ih
  exact fun i hi ↦ Nat.lt_irrefl _ (hlt hi)

/-- Where no way up comes back, every way up ends: there are only so many positions. -/
theorem rooted_of_acyclic (h : Acyclic records) (hi : i < records.length) : Rooted records i := by
  -- to be above is transitive and never holds of a position and itself; among finitely many
  -- positions that makes it well founded
  let above (j i : Fin records.length) : Prop :=
    Relation.TransGen (fun i j ↦ parentAt? records i = some j) i j
  have : IsTrans (Fin records.length) above := ⟨fun _ _ _ hab hbc ↦ hbc.trans hab⟩
  have : Std.Irrefl above := ⟨fun i ↦ h i⟩
  have hwf : WellFounded above := Finite.wellFounded_of_trans_of_irrefl above
  have key : ∀ k : Fin records.length, Rooted records k := by
    intro k
    induction k using hwf.induction with
    | h k ih =>
      cases hp : parentAt? records k with
      | none => exact .root k.2 hp
      | some j => exact .child hp (ih ⟨j, (lt_length_of_parentAt? hp).2⟩ (.single hp))
  exact key ⟨i, hi⟩

/-! ### Who is named as a parent -/

/-- The record at a position names the one at another as its parent: it gives an id, and the other
is the first record that has this id. -/
def Names (records : List MenuRecord) (i j : Nat) : Prop :=
  ∃ r s id, records[i]? = some r ∧ r.parentId = some id ∧ records[j]? = some s ∧ s.id = some id ∧
    ∀ k < j, ∀ q, records[k]? = some q → q.id ≠ some id

/-- The first record with an id has it, and none before it has. -/
theorem firstWithId?_eq_some_iff {id : Int64} : firstWithId? records id = some j ↔
    ∃ s, records[j]? = some s ∧ s.id = some id ∧
      ∀ k < j, ∀ q, records[k]? = some q → q.id ≠ some id := by
  rw [firstWithId?, List.findIdx?_eq_some_iff_getElem]
  constructor
  · rintro ⟨hj, hid, hfirst⟩
    refine ⟨_, List.getElem?_eq_getElem hj, beq_iff_eq.1 hid, fun k hk q hq hqid ↦ ?_⟩
    obtain ⟨hlt, hget⟩ := List.getElem?_eq_some_iff.1 hq
    exact hfirst k hk (beq_iff_eq.2 (hget ▸ hqid))
  · rintro ⟨s, hs, hid, hfirst⟩
    obtain ⟨hj, rfl⟩ := List.getElem?_eq_some_iff.1 hs
    refine ⟨hj, beq_iff_eq.2 hid, fun k hk hkid ↦ ?_⟩
    exact hfirst k hk _ (List.getElem?_eq_getElem (hk.trans hj)) (beq_iff_eq.1 hkid)

/-- A record names the one that is found for the id which it gives. -/
theorem names_iff : Names records i j ↔
    (records[i]?.bind (·.parentId)).bind (firstWithId? records) = some j := by
  simp only [Option.bind_eq_some_iff, firstWithId?_eq_some_iff, Names]
  constructor
  · rintro ⟨r, s, id, hr, hparent, hs⟩
    exact ⟨id, ⟨r, hr, hparent⟩, s, hs⟩
  · rintro ⟨id, ⟨r, hr, hparent⟩, s, hs⟩
    exact ⟨r, s, id, hr, hparent, hs⟩

/-- A position stands below the one that its record names, unless that is the position itself. -/
theorem parentAt?_eq_some_iff : parentAt? records i = some j ↔ j ≠ i ∧ Names records i j := by
  rw [names_iff, parentAt?, Option.filter_eq_some_iff, bne_iff_ne, and_comm]

/-- A position stands below none if its record names no other. -/
theorem parentAt?_eq_none_iff :
    parentAt? records i = none ↔ ∀ j, Names records i j → j = i := by
  simp only [Option.eq_none_iff_forall_ne_some, ne_eq, parentAt?_eq_some_iff, not_and]
  exact forall_congr' fun j ↦ not_imp_comm.trans (by rw [not_not])

/-! ### Entries -/

theorem mem_entries {e : Entry} : e ∈ entries records ↔ records[e.2]? = some e.1 :=
  List.mem_zipIdx_iff_getElem?

theorem exists_mem_entries (hi : i < records.length) : ∃ e ∈ entries records, e.2 = i :=
  ⟨(records[i], i), mem_entries.2 (List.getElem?_eq_getElem hi), rfl⟩

/-- An entry is known by its position. -/
theorem eq_of_mem_entries {e e' : Entry} (he : e ∈ entries records) (he' : e' ∈ entries records)
    (h : e.2 = e'.2) : e = e' := by
  rw [mem_entries] at he he'
  rw [h, he'] at he
  exact Prod.ext (Option.some.inj he).symm h

theorem nodup_entries : (entries records).Nodup := by
  refine List.Nodup.of_map Prod.snd ?_
  rw [entries, List.zipIdx_map_snd]
  exact List.nodup_range'

/-- Among all entries, an id is found where it is in the list. -/
theorem positionOf?_entries (id : Int64) :
    positionOf? (entries records) id = firstWithId? records id := by
  rw [firstWithId?, List.findIdx?_eq_fst_find?_zipIdx]
  rfl

/-- The parent of an entry is that of its position. -/
theorem parent?_entries {e : Entry} (he : e ∈ entries records) :
    parent? (entries records) e = parentAt? records e.2 := by
  have hposition : positionOf? (entries records) = firstWithId? records :=
    funext positionOf?_entries
  rw [parent?, parentAt?, mem_entries.1 he, Option.bind_some, hposition]

end PitchDesk.Menu
