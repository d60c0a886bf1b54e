import Mathlib.Data.List.Permutation
import PitchDesk.Proofs.Menu.Siblings
import PitchDesk.Sample.Accounts

/-!
# Listing the records of a menu in another order

Where no two records share an id, who stands below whom does not depend on the order in which the
records come. So a list may be replaced by another one that holds its records in another order, and
that may leave out records that are below no root: the menu is the same as long as siblings with
equal indexes still come in the same order, `Relisted.hierarchy_eq`.

There are two such lists. One is the walk through the menu itself, so rebuilding the menu from its
walk gives the same menu, `hierarchy_flatten_hierarchy`. The other is any permutation of a list in
which no two siblings have equal indexes, `hierarchy_eq_of_perm`.

The forests are compared level by level, by `Forest.eq_map_of_labels`. A level is a list of
siblings that is sorted by index and position, and such a list is known by its elements,
`eq_of_sorted`.

## What the hypotheses are for

* Distinct ids: of several records with one id, those that name it stand below the first, and which
  one is first depends on the order of the list (`DistinctIds.names`).
* Records that are left out: a record below no root is in neither menu, but it may still be named.
  That all positions named by the walk are on it (`mem_of_parent`) is what keeps parents.
* Siblings with equal indexes come in the order of the list. On the walk they come in the same
  order as before, so nothing need be asked there; for permutations the indexes have to differ.
-/

namespace PitchDesk.Menu

variable {records records' : List MenuRecord} {walk : List Nat} {i j : Nat}

/-! ### Distinct ids -/

/-- No two records share an id; there may be any number without one. -/
def DistinctIds (records : List MenuRecord) : Prop :=
  (records.filterMap (·.id)).Nodup

instance : DecidablePred DistinctIds :=
  fun records ↦ inferInstanceAs (Decidable (records.filterMap (·.id)).Nodup)

/-- Where ids are distinct, an id belongs to one position. -/
theorem DistinctIds.eq_of_id_eq (h : DistinctIds records) {r s : MenuRecord} {id : Int64}
    (hr : records[i]? = some r) (hs : records[j]? = some s) (hrid : r.id = some id)
    (hsid : s.id = some id) : i = j := by
  obtain ⟨hi, rfl⟩ := List.getElem?_eq_some_iff.1 hr
  obtain ⟨hj, rfl⟩ := List.getElem?_eq_some_iff.1 hs
  have hpair := List.pairwise_iff_getElem.1 (List.pairwise_filterMap.1 h)
  rcases Nat.lt_trichotomy i j with hlt | heq | hlt
  · exact absurd rfl (hpair i j hi hj hlt id hrid id hsid)
  · exact heq
  · exact absurd rfl (hpair j i hj hi hlt id hsid id hrid)

/-- Where ids are distinct, a record names whichever record has the id that it gives. -/
theorem DistinctIds.names (h : DistinctIds records) {r s : MenuRecord} {id : Int64}
    (hr : records[i]? = some r) (hparent : r.parentId = some id) (hs : records[j]? = some s)
    (hid : s.id = some id) : Names records i j := by
  refine ⟨r, s, id, hr, hparent, hs, hid, fun k hk q hq hqid ↦ ?_⟩
  exact Nat.ne_of_lt hk (h.eq_of_id_eq hq hs hqid hid)

/-! ### Sorted siblings -/

/-- The order in which siblings stand: by index, and with equal indexes by position. -/
def Precedes (a b : Entry) : Prop :=
  a.1.orderIndex < b.1.orderIndex ∨ a.1.orderIndex = b.1.orderIndex ∧ a.2 < b.2

theorem Precedes.asymm {a b : Entry} (hab : Precedes a b) : ¬Precedes b a := by
  rintro (hlt' | ⟨heq', hpos'⟩)
  · rcases hab with hlt | ⟨heq, -⟩
    · exact Int64.lt_asymm hlt hlt'
    · exact Int64.lt_irrefl (heq ▸ hlt')
  · rcases hab with hlt | ⟨-, hpos⟩
    · exact Int64.lt_irrefl (heq' ▸ hlt)
    · exact Nat.lt_asymm hpos hpos'

/-- Two sorted lists of the same entries are equal. -/
theorem eq_of_sorted {xs ys : List Entry} (hperm : xs.Perm ys) (hxs : xs.Pairwise Precedes)
    (hys : ys.Pairwise Precedes) : xs = ys :=
  hperm.eq_of_pairwise (fun _ _ _ _ hab hba ↦ absurd hba hab.asymm) hxs hys

/-- Siblings stand in order. -/
theorem precedes_inOrder (records : List MenuRecord) (parent : Option Nat) :
    (inOrder (below (entries records) (entries records) parent)).Pairwise Precedes :=
  pairwise_inOrder ((pairwise_entries records).filter _)

/-! ### Lists of the same records -/

/-- A list holds the records at some positions of another list, in the order in which these
positions are given. No position is given twice; all that are below a root are given, and with each
one also the position that it stands below. -/
structure Relisted (records records' : List MenuRecord) (walk : List Nat) : Prop where
  nodup : walk.Nodup
  map_some : records'.map some = walk.map fun i ↦ records[i]?
  mem_of_rooted : ∀ i, Rooted records i → i ∈ walk
  mem_of_parent : ∀ i ∈ walk, ∀ j, parentAt? records i = some j → j ∈ walk

namespace Relisted

theorem length_eq (h : Relisted records records' walk) : records'.length = walk.length := by
  simpa using congrArg List.length h.map_some

/-- A record is found where its position is given. -/
theorem getElem?_idxOf (h : Relisted records records' walk) (hi : i ∈ walk) :
    records'[walk.idxOf i]? = records[i]? := by
  have hget := congrArg (·[walk.idxOf i]?) h.map_some
  simp only [List.getElem?_map, List.getElem?_idxOf hi] at hget
  obtain ⟨r, hr, hsome⟩ := Option.map_eq_some_iff.1 hget
  rw [hr, hsome]

theorem exists_idxOf_eq (h : Relisted records records' walk) {k : Nat} (hk : k < records'.length) :
    ∃ i ∈ walk, walk.idxOf i = k := by
  rw [h.length_eq] at hk
  exact ⟨walk[k], List.getElem_mem hk, h.nodup.idxOf_getElem k hk⟩

/-- A record names another one in the second list exactly if it does in the first. -/
theorem names_idxOf_iff (h : Relisted records records' walk) (hids : DistinctIds records)
    (hi : i ∈ walk) (hj : j ∈ walk) :
    Names records' (walk.idxOf i) (walk.idxOf j) ↔ Names records i j := by
  constructor
  · rintro ⟨r, s, id, hr, hparent, hs, hid, -⟩
    rw [h.getElem?_idxOf hi] at hr
    rw [h.getElem?_idxOf hj] at hs
    exact hids.names hr hparent hs hid
  · rintro ⟨r, s, id, hr, hparent, hs, hid, -⟩
    refine ⟨r, s, id, (h.getElem?_idxOf hi).trans hr, hparent, (h.getElem?_idxOf hj).trans hs, hid,
      fun k hk q hq hqid ↦ ?_⟩
    -- another record with this id would come from another position with this id
    obtain ⟨m, hm, rfl⟩ := h.exists_idxOf_eq (List.getElem?_eq_some_iff.1 hq).1
    rw [h.getElem?_idxOf hm] at hq
    have heq := hids.eq_of_id_eq hq hs hqid hid
    rw [heq] at hk
    exact Nat.lt_irrefl _ hk

/-- Who stands below whom is the same in both lists. -/
theorem parentAt?_idxOf (h : Relisted records records' walk) (hids : DistinctIds records)
    (hi : i ∈ walk) :
    parentAt? records' (walk.idxOf i) = (parentAt? records i).map walk.idxOf := by
  cases hparent : parentAt? records i with
  | some j =>
    have hj : j ∈ walk := h.mem_of_parent i hi j hparent
    obtain ⟨hne, hnames⟩ := parentAt?_eq_some_iff.1 hparent
    refine parentAt?_eq_some_iff.2 ⟨?_, (h.names_idxOf_iff hids hi hj).2 hnames⟩
    rw [Ne, List.idxOf_inj hj]
    exact hne
  | none =>
    refine parentAt?_eq_none_iff.2 fun k hnames ↦ ?_
    have hk : k < records'.length := by
      obtain ⟨-, s, -, -, -, hs, -⟩ := hnames
      exact (List.getElem?_eq_some_iff.1 hs).1
    obtain ⟨m, hm, rfl⟩ := h.exists_idxOf_eq hk
    rw [parentAt?_eq_none_iff.1 hparent m ((h.names_idxOf_iff hids hi hm).1 hnames)]

/-! ### Levels -/

/-- An entry of the first list as one of the second. -/
def moved (walk : List Nat) (e : Entry) : Entry :=
  (e.1, walk.idxOf e.2)

/-- The entries of the second list are those of the first that are given, moved. -/
theorem mem_entries_iff (h : Relisted records records' walk) {e' : Entry} :
    e' ∈ entries records' ↔ ∃ e ∈ entries records, e.2 ∈ walk ∧ moved walk e = e' := by
  constructor
  · intro he'
    rw [mem_entries] at he'
    obtain ⟨i, hi, hidx⟩ := h.exists_idxOf_eq (List.getElem?_eq_some_iff.1 he').1
    rw [← hidx, h.getElem?_idxOf hi] at he'
    exact ⟨(e'.1, i), mem_entries.2 he', hi, Prod.ext rfl hidx⟩
  · rintro ⟨e, he, hwalk, rfl⟩
    rw [mem_entries] at he ⊢
    exact (h.getElem?_idxOf hwalk).trans he

/-- An entry that is moved stands below the moved position. -/
theorem parent?_moved (h : Relisted records records' walk) (hids : DistinctIds records) {e : Entry}
    (he : e ∈ entries records) (hwalk : e.2 ∈ walk) :
    parent? (entries records') (moved walk e) =
      (parent? (entries records) e).map walk.idxOf := by
  have he' : moved walk e ∈ entries records' := h.mem_entries_iff.2 ⟨e, he, hwalk, rfl⟩
  rw [parent?_entries he', parent?_entries he]
  exact h.parentAt?_idxOf hids hwalk

/-- Positions that are given are told apart by where they are moved to. -/
theorem map_idxOf_inj {p q : Option Nat} (hp : ∀ j ∈ p, j ∈ walk)
    (hpq : p.map walk.idxOf = q.map walk.idxOf) : p = q := by
  cases p with
  | none => exact (Option.map_eq_none_iff.1 hpq.symm).symm
  | some j =>
    obtain ⟨k, rfl, hk⟩ := Option.map_eq_some_iff.1 hpq.symm
    exact congrArg some ((List.idxOf_inj (hp j rfl)).1 hk.symm)

variable {parent : Option Nat}

/-- What stands below a position holds the same records in both lists. -/
theorem perm_below (h : Relisted records records' walk) (hids : DistinctIds records)
    (hparent : ∀ j ∈ parent, j ∈ walk)
    (hbelow : ∀ e ∈ below (entries records) (entries records) parent, e.2 ∈ walk) :
    (below (entries records') (entries records') (parent.map walk.idxOf)).Perm
      ((below (entries records) (entries records) parent).map (moved walk)) := by
  have hinj : ∀ a ∈ below (entries records) (entries records) parent,
      ∀ b ∈ below (entries records) (entries records) parent,
        moved walk a = moved walk b → a = b := by
    intro a ha b hb hab
    have hpositions : a.2 = b.2 := (List.idxOf_inj (hbelow a ha)).1 (congrArg Prod.snd hab)
    exact eq_of_mem_entries (mem_below.1 ha).1 (mem_below.1 hb).1 hpositions
  have hnodup : (below (entries records') (entries records') (parent.map walk.idxOf)).Nodup :=
    nodup_entries.filter _
  refine (List.perm_ext_iff_of_nodup hnodup ((nodup_entries.filter _).map_on hinj)).2 fun e' ↦ ?_
  rw [mem_below, h.mem_entries_iff, List.mem_map]
  constructor
  · rintro ⟨⟨e, he, hwalk, rfl⟩, hsame⟩
    rw [h.parent?_moved hids he hwalk] at hsame
    exact ⟨e, mem_below.2 ⟨he, (map_idxOf_inj hparent hsame.symm).symm⟩, rfl⟩
  · rintro ⟨e, he, rfl⟩
    have hwalk := hbelow e he
    obtain ⟨he, hsame⟩ := mem_below.1 he
    exact ⟨⟨e, he, hwalk, rfl⟩, by rw [h.parent?_moved hids he hwalk, hsame]⟩

/-- If two entries have equal indexes, the first one comes first in the second list too. -/
def Kept (walk : List Nat) (a b : Entry) : Prop :=
  a.1.orderIndex = b.1.orderIndex → walk.idxOf a.2 < walk.idxOf b.2

/-- Where siblings with equal indexes come in the same order in both lists, they stand in the same
order. -/
theorem inOrder_below (h : Relisted records records' walk) (hids : DistinctIds records)
    (parent : Option Nat) (hparent : ∀ j ∈ parent, j ∈ walk)
    (hbelow : ∀ e ∈ below (entries records) (entries records) parent, e.2 ∈ walk)
    (hkept : (inOrder (below (entries records) (entries records) parent)).Pairwise (Kept walk)) :
    inOrder (below (entries records') (entries records') (parent.map walk.idxOf)) =
      (inOrder (below (entries records) (entries records) parent)).map (moved walk) := by
  have hmoved : ((inOrder (below (entries records) (entries records) parent)).map
      (moved walk)).Pairwise Precedes := by
    rw [List.pairwise_map]
    refine ((precedes_inOrder records parent).and hkept).imp fun {a b} ⟨hab, hlt⟩ ↦ ?_
    exact hab.imp_right fun ⟨heq, _⟩ ↦ ⟨heq, hlt heq⟩
  have hperm : (inOrder (below (entries records') (entries records') (parent.map walk.idxOf))).Perm
      ((inOrder (below (entries records) (entries records) parent)).map (moved walk)) := by
    have hsorted := List.mergeSort_perm (below (entries records) (entries records) parent)
      fun a b ↦ decide (a.1.orderIndex ≤ b.1.orderIndex)
    exact (List.mergeSort_perm _ _).trans
      ((h.perm_below hids hparent hbelow).trans (hsorted.symm.map _))
  exact eq_of_sorted hperm (precedes_inOrder records' _) hmoved

end Relisted

/-! ### The forest -/

variable {t : Tree Entry}

/-- Every node of the forest is that of a rooted position. -/
theorem rooted_of_hasNode
    (ht : Forest.HasNode (grow (entries records) (entries records) none) t) :
    Rooted records t.label.2 :=
  (under_none_iff.1 ((mem_flatten_grow _ _ _ _).1 ht.label_mem_flatten)).2

/-- The children of a node are all that stand below it in the whole list, in order. -/
theorem labels_children_grow
    (ht : Forest.HasNode (grow (entries records) (entries records) none) t) :
    Forest.labels t.children =
      inOrder (below (entries records) (entries records) (some t.label.2)) :=
  labels_children_of_hasNode (left_all _) (fun _ ha _ hb ↦ eq_of_mem_entries ha hb) ht

/-- The menu of both lists is the same if siblings with equal indexes come in the same order in
both. -/
theorem Relisted.hierarchy_eq (h : Relisted records records' walk) (hids : DistinctIds records)
    (hroots : (Forest.labels (grow (entries records) (entries records) none)).Pairwise (Kept walk))
    (hchildren : ∀ t, Forest.HasNode (grow (entries records) (entries records) none) t →
      (Forest.labels t.children).Pairwise (Kept walk)) :
    hierarchy records' = hierarchy records := by
  have hgrow : grow (entries records') (entries records') none =
      Forest.map (moved walk) (grow (entries records) (entries records) none) := by
    refine Forest.eq_map_of_labels _ _ _ ?_ fun t u ht hu hlabel ↦ ?_
    · rw [labels_grow] at hroots
      rw [labels_grow, labels_grow]
      refine h.inOrder_below hids none nofun (fun e he ↦ ?_) hroots
      obtain ⟨he, hparent⟩ := mem_below.1 he
      rw [parent?_entries he] at hparent
      exact h.mem_of_rooted _ (.root (List.getElem?_eq_some_iff.1 (mem_entries.1 he)).1 hparent)
    · have hrooted : Rooted records t.label.2 := rooted_of_hasNode ht
      have hkept := hchildren t ht
      rw [labels_children_grow ht] at hkept
      rw [labels_children_grow ht, labels_children_grow hu, hlabel]
      refine h.inOrder_below hids (some t.label.2) ?_ (fun e he ↦ ?_) hkept
      · rintro j ⟨⟩
        exact h.mem_of_rooted _ hrooted
      · obtain ⟨he, hparent⟩ := mem_below.1 he
        rw [parent?_entries he] at hparent
        exact h.mem_of_rooted _ (.child hparent hrooted)
  rw [hierarchy, hierarchy, hgrow, Forest.map_map]
  rfl

/-! ### The walk through the menu -/

/-- The walk through the menu lists its records. -/
theorem relisted_walk (records : List MenuRecord) :
    Relisted records (Forest.flatten (hierarchy records)) (positions records) where
  nodup := nodup_positions records
  map_some := flatten_hierarchy records
  mem_of_rooted _ := mem_positions.2
  mem_of_parent i hi j hparent := by
    rw [mem_positions] at hi ⊢
    cases hi with
    | root _ hnone => rw [hnone] at hparent; cases hparent
    | child hsome hj =>
      rw [hsome] at hparent
      cases hparent
      exact hj

/-- On a list without repetitions, earlier elements have earlier places. -/
theorem pairwise_idxOf {xs : List Nat} (h : xs.Nodup) :
    xs.Pairwise fun i j ↦ xs.idxOf i < xs.idxOf j := by
  refine List.pairwise_iff_getElem.2 fun i j hi hj hlt ↦ ?_
  rw [h.idxOf_getElem i hi, h.idxOf_getElem j hj]
  exact hlt

/-- **To build the menu again from its own walk changes nothing.** For every list of records no two
of which share an id, the menu that is built from the walk through the menu of the list is the same
menu. -/
theorem hierarchy_flatten_hierarchy (hids : DistinctIds records) :
    hierarchy (Forest.flatten (hierarchy records)) = hierarchy records := by
  have hkept : (Forest.flatten (grow (entries records) (entries records) none)).Pairwise
      (Relisted.Kept (positions records)) := by
    have hidx := pairwise_idxOf (nodup_positions records)
    rw [positions, List.pairwise_map] at hidx
    refine hidx.imp fun {a b} hlt ↦ ?_
    exact fun _ ↦ hlt
  refine (relisted_walk records).hierarchy_eq hids ?_ fun t ht ↦ ?_
  · exact hkept.sublist (Forest.labels_sublist_flatten _)
  · have hsublist := (Forest.labels_sublist_flatten _).trans ht.flatten_children_sublist
    exact hkept.sublist hsublist

/-- A menu with a record whose parent is missing, one that names itself, two that name each other,
and two siblings without ids that have equal indexes. -/
def sampleTangle : List MenuRecord :=
  [Sample.menuRecord 3 "roles" "/admin/roles" (some 4) 1,
    { Sample.menuRecord 0 "payments" "/payments" (some 1) 2 with id := none },
    Sample.menuRecord 1 "events" "/events" (some 77) 2,
    Sample.menuRecord 4 "menus" "/admin/menus" (some 3) 1,
    { Sample.menuRecord 0 "submissions" "/submissions" (some 1) 2 with id := none },
    Sample.menuRecord 2 "vendors" "/vendors" (some 2) 1]

/-- The two records that name each other are lost, and the others come in another order, but the
menu that is built from them is the same. -/
theorem walk_of_tangle :
    DistinctIds sampleTangle ∧
      (Forest.flatten (hierarchy sampleTangle)).map (·.name) =
        ["vendors", "events", "payments", "submissions"] ∧
      hierarchy (Forest.flatten (hierarchy sampleTangle)) = hierarchy sampleTangle := by
  have hids : DistinctIds sampleTangle := by decide
  exact ⟨hids, by cbv, hierarchy_flatten_hierarchy hids⟩

/-! ### Permutations -/

/-- No two siblings, that is, records with the same parent or without one, have equal indexes. -/
def DistinctIndexes (records : List MenuRecord) : Prop :=
  ∀ i < records.length, ∀ j < records.length, i ≠ j → parentAt? records i = parentAt? records j →
    records[i]?.map (·.orderIndex) ≠ records[j]?.map (·.orderIndex)

instance : DecidablePred DistinctIndexes :=
  fun records ↦ inferInstanceAs (Decidable (∀ i < records.length, ∀ j < records.length, i ≠ j →
    parentAt? records i = parentAt? records j →
      records[i]?.map (·.orderIndex) ≠ records[j]?.map (·.orderIndex)))

/-- Where siblings have distinct indexes, any two of them come in the order of these. -/
theorem DistinctIndexes.pairwise_kept (h : DistinctIndexes records) (walk : List Nat)
    (parent : Option Nat) :
    (inOrder (below (entries records) (entries records) parent)).Pairwise (Relisted.Kept walk) := by
  have hnodup : (inOrder (below (entries records) (entries records) parent)).Nodup :=
    (List.mergeSort_perm _ _).nodup_iff.2 (nodup_entries.filter _)
  refine hnodup.pairwise_of_forall_ne fun a ha b hb hne hindex ↦ ?_
  obtain ⟨ha, haparent⟩ := mem_below.1 (mem_inOrder.1 ha)
  obtain ⟨hb, hbparent⟩ := mem_below.1 (mem_inOrder.1 hb)
  have hpositions : a.2 ≠ b.2 := fun heq ↦ hne (eq_of_mem_entries ha hb heq)
  have hparents : parentAt? records a.2 = parentAt? records b.2 := by
    rw [← parent?_entries ha, ← parent?_entries hb, haparent, hbparent]
  rw [mem_entries] at ha hb
  refine absurd ?_ (h a.2 (List.getElem?_eq_some_iff.1 ha).1 b.2
    (List.getElem?_eq_some_iff.1 hb).1 hpositions hparents)
  rw [ha, hb, Option.map_some, Option.map_some, hindex]

/-- A permutation of a list holds the records at all of its positions in some order. -/
theorem exists_relisted_of_perm (h : records'.Perm records) :
    ∃ walk, Relisted records records' walk := by
  have hpositions : List.Forall₂ (fun r i ↦ some r = records[i]?) records
      (List.range records.length) := by
    refine List.forall₂_iff_get.2 ⟨List.length_range.symm, fun i hi _ ↦ ?_⟩
    simp [hi]
  obtain ⟨walk, hwalk, hrange⟩ := List.perm_comp_forall₂ h hpositions
  refine ⟨walk, hrange.nodup_iff.2 List.nodup_range, ?_, fun i hi ↦ ?_, fun i _ j hparent ↦ ?_⟩
  · rw [← List.forall₂_eq_eq_eq, List.forall₂_map_left_iff, List.forall₂_map_right_iff]
    exact hwalk
  · exact hrange.mem_iff.2 (List.mem_range.2 hi.lt_length)
  · exact hrange.mem_iff.2 (List.mem_range.2 (lt_length_of_parentAt? hparent).2)

/-- **The menu does not depend on the order in which its records come.** For every list of records
no two of which share an id, and no two siblings of which have equal indexes, every permutation of
the list has the same menu. -/
theorem hierarchy_eq_of_perm (hids : DistinctIds records) (hindexes : DistinctIndexes records)
    (hperm : records'.Perm records) : hierarchy records' = hierarchy records := by
  obtain ⟨walk, hwalk⟩ := exists_relisted_of_perm hperm
  refine hwalk.hierarchy_eq hids ?_ fun t ht ↦ ?_
  · rw [labels_grow]
    exact hindexes.pairwise_kept walk none
  · rw [labels_children_grow ht]
    exact hindexes.pairwise_kept walk _

/-- A menu with a record whose parent is missing, one that names itself, and two that name each
other, but no two siblings with equal indexes. -/
def sampleKnot : List MenuRecord :=
  Sample.serverMenu ++
    [Sample.menuRecord 20 "roles" "/admin/roles" (some 21) 1,
      Sample.menuRecord 21 "menus" "/admin/menus" (some 20) 1,
      Sample.menuRecord 22 "users" "/admin/users" (some 22) 3]

/-- The other way round, the records make the same menu. The two that name each other are not in it,
and the others stand at the same depth in the same order. -/
theorem hierarchy_of_reversed_knot :
    DistinctIds sampleKnot ∧ DistinctIndexes sampleKnot ∧ sampleKnot.reverse.Perm sampleKnot ∧
      hierarchy sampleKnot.reverse = hierarchy sampleKnot ∧
      (Forest.withDepth (hierarchy sampleKnot.reverse)).map (fun p ↦ (p.1, p.2.label.name)) =
        [(0, "dashboard"), (0, "operations"), (1, "events"), (1, "submissions"), (1, "payments"),
          (0, "users"), (0, "vendors")] := by
  have hids : DistinctIds sampleKnot := by decide
  have hindexes : DistinctIndexes sampleKnot := by decide
  have hperm := List.reverse_perm sampleKnot
  exact ⟨hids, hindexes, hperm, hierarchy_eq_of_perm hids hindexes hperm, by cbv⟩

end PitchDesk.Menu
