import PitchDesk.Proofs.Menu.Preorder

/-!
# Parents, children and siblings in a menu forest

In the forest of a list of menu records each node has all those below it whose records name it, and
no others; the roots are the records that name no other; and all siblings stand in the order of
their indexes, `hierarchy_siblings`. Names and ids may repeat, so this too is told by positions.

A level that has been placed is no longer in the pool that the levels below it grow from. That
takes no child away from a node further down: what has left the pool stands directly below one of
the nodes on the way to it, and nobody is on the way to itself. `Left` carries this down the
forest.

The forest is told twice: by its nodes with all that is below them, and by the order at each level.
Both together determine it, and neither mentions how it grows; in `PitchDesk.Proofs.Menu.Relisting`
they are all that is used of it.
-/

namespace PitchDesk.Menu

variable {es pool : List Entry} {parent : Option Nat} {above : List (Option Nat)} {e : Entry}
  {records : List MenuRecord}

/-! ### The order of siblings -/

theorem orderIndex_le_trans (a b c : Entry)
    (hab : decide (a.1.orderIndex ≤ b.1.orderIndex) = true)
    (hbc : decide (b.1.orderIndex ≤ c.1.orderIndex) = true) :
    decide (a.1.orderIndex ≤ c.1.orderIndex) = true :=
  decide_eq_true (Int64.le_trans (of_decide_eq_true hab) (of_decide_eq_true hbc))

theorem orderIndex_le_total (a b : Entry) :
    (decide (a.1.orderIndex ≤ b.1.orderIndex) || decide (b.1.orderIndex ≤ a.1.orderIndex)) =
      true := by
  simpa using Int64.le_total a.1.orderIndex b.1.orderIndex

/-- Sorting is stable: those of one index keep their order. -/
theorem filter_inOrder (siblings : List Entry) (c : Int64) :
    (inOrder siblings).filter (·.1.orderIndex == c) =
      siblings.filter (·.1.orderIndex == c) := by
  have hsame : (siblings.filter (·.1.orderIndex == c)).Pairwise
      fun a b ↦ decide (a.1.orderIndex ≤ b.1.orderIndex) = true := by
    refine List.pairwise_of_forall_mem_list fun a ha b hb ↦ ?_
    rw [List.mem_filter, beq_iff_eq] at ha hb
    simp [ha.2, hb.2]
  have hsub : (siblings.filter (·.1.orderIndex == c)).Sublist (inOrder siblings) :=
    List.sublist_mergeSort orderIndex_le_trans orderIndex_le_total hsame List.filter_sublist
  have hfiltered : (siblings.filter (·.1.orderIndex == c)).Sublist
      ((inOrder siblings).filter (·.1.orderIndex == c)) := by
    simpa [List.filter_filter] using hsub.filter (·.1.orderIndex == c)
  -- both hold the same entries, so neither is shorter
  have hperm : (inOrder siblings).Perm siblings := List.mergeSort_perm _ _
  exact (hfiltered.eq_of_length (hperm.filter _).length_eq.symm).symm

/-- Entries that come in the order of their positions are sorted by their indexes, and those with
equal indexes by their positions. -/
theorem pairwise_inOrder {siblings : List Entry} (h : siblings.Pairwise fun a b ↦ a.2 < b.2) :
    (inOrder siblings).Pairwise fun a b ↦
      a.1.orderIndex < b.1.orderIndex ∨ a.1.orderIndex = b.1.orderIndex ∧ a.2 < b.2 := by
  have hsorted : (inOrder siblings).Pairwise
      fun a b ↦ decide (a.1.orderIndex ≤ b.1.orderIndex) = true :=
    List.pairwise_mergeSort orderIndex_le_trans orderIndex_le_total siblings
  refine List.pairwise_iff_forall_sublist.2 fun {a b} hab ↦ ?_
  have hle := of_decide_eq_true (List.pairwise_iff_forall_sublist.1 hsorted hab)
  refine (Int64.lt_or_eq_of_le hle).imp_right fun heq ↦ ⟨heq, ?_⟩
  -- both are among those of one index, which stand as they came
  have hfiltered := hab.filter (·.1.orderIndex == b.1.orderIndex)
  rw [filter_inOrder, List.filter_eq_self.2 (by simp [heq])] at hfiltered
  exact List.pairwise_iff_forall_sublist.1 h (hfiltered.trans List.filter_sublist)

/-! ### No child is taken away -/

/-- What is left of some entries when the levels below some positions have been taken out, while the
level below a further position is still to come: these positions are on the way up from it. -/
structure Left (es pool : List Entry) (above : List (Option Nat)) (parent : Option Nat) : Prop where
  pool_eq : pool = es.filter fun e ↦ parent? es e ∉ above
  parent_notMem : parent ∉ above
  parent?_mem : ∀ e ∈ es, some e.2 ∈ parent :: above → parent? es e ∈ above

theorem left_all (es : List Entry) : Left es es [] none where
  pool_eq := by simp
  parent_notMem := List.not_mem_nil
  parent?_mem := by simp

/-- The level that comes next is complete. -/
theorem Left.below_eq (h : Left es pool above parent) :
    below es pool parent = below es es parent := by
  rw [below, below, h.pool_eq, List.filter_filter]
  refine List.filter_congr fun e _ ↦ ?_
  by_cases hparent : parent? es e = parent
  · simp [hparent, h.parent_notMem]
  · simp [hparent]

/-- Below an entry of this level, the whole level has been taken out too. -/
theorem Left.next (h : Left es pool above parent)
    (hinj : ∀ a ∈ es, ∀ b ∈ es, a.2 = b.2 → a = b) (he : e ∈ below es pool parent) :
    Left es (notBelow es pool parent) (parent :: above) (some e.2) := by
  obtain ⟨hpool, hparent⟩ := mem_below.1 he
  rw [h.pool_eq, List.mem_filter, decide_eq_true_eq] at hpool
  obtain ⟨hes, hnot⟩ := hpool
  refine ⟨?_, fun hmem ↦ hnot (h.parent?_mem e hes hmem), fun a ha hmem ↦ ?_⟩
  · rw [notBelow, h.pool_eq, List.filter_filter]
    refine List.filter_congr fun a _ ↦ ?_
    simp [not_or, bne, beq_eq_decide]
  · rcases List.mem_cons.1 hmem with heq | hmem
    · rw [hinj a ha e hes (Option.some.inj heq), hparent]
      exact List.mem_cons_self
    · exact List.mem_cons_of_mem _ (h.parent?_mem a ha hmem)

/-! ### The trees that grow -/

/-- The trees that grow are those of the entries directly below a position, each with what grows
from the rest. -/
theorem mem_grow {t : Tree Entry} :
    t ∈ grow es pool parent ↔ ∃ e ∈ below es pool parent,
      t = .node e (grow es (notBelow es pool parent) (some e.2)) := by
  by_cases h : below es pool parent = []
  · simp [grow_of_below_eq_nil h, h]
  · rw [grow, dif_neg h, List.mem_map]
    simp only [mem_inOrder, eq_comm]

theorem labels_grow (es pool : List Entry) (parent : Option Nat) :
    Forest.labels (grow es pool parent) = inOrder (below es pool parent) := by
  by_cases h : below es pool parent = []
  · rw [grow_of_below_eq_nil h, h, inOrder, List.mergeSort_nil]
    rfl
  · rw [grow, dif_neg h, Forest.labels, List.map_map]
    exact List.map_id _

/-- The children of a node are all that stand directly below it. -/
theorem labels_children_of_hasNode {t : Tree Entry} (h : Left es pool above parent)
    (hinj : ∀ a ∈ es, ∀ b ∈ es, a.2 = b.2 → a = b)
    (ht : Forest.HasNode (grow es pool parent) t) :
    Forest.labels t.children = inOrder (below es es (some t.label.2)) := by
  generalize hts : grow es pool parent = ts at ht
  induction ht generalizing pool above parent with
  | root ht =>
    obtain ⟨e, he, rfl⟩ := mem_grow.1 (hts ▸ ht)
    exact (labels_grow _ _ _).trans (congrArg inOrder (h.next hinj he).below_eq)
  | inner hs _ ih =>
    obtain ⟨e, he, rfl⟩ := mem_grow.1 (hts ▸ hs)
    exact ih (h.next hinj he) rfl

/-! ### The menu forest -/

/-- A record comes before another among its siblings: its index is smaller, or the indexes are equal
and it came first. -/
def Before (records : List MenuRecord) (i j : Nat) : Prop :=
  ∃ r s, records[i]? = some r ∧ records[j]? = some s ∧
    (r.orderIndex < s.orderIndex ∨ r.orderIndex = s.orderIndex ∧ i < j)

/-- Entries come in the order of their positions. -/
theorem pairwise_entries (records : List MenuRecord) :
    (entries records).Pairwise fun a b ↦ a.2 < b.2 := by
  rw [← List.pairwise_map (f := Prod.snd) (R := (· < ·)), entries, List.zipIdx_map_snd]
  exact List.pairwise_lt_range'

/-- The positions that stand directly below a position, or the roots, in order. -/
def siblings (records : List MenuRecord) (parent : Option Nat) : List Nat :=
  (inOrder (below (entries records) (entries records) parent)).map (·.2)

/-- The siblings below a position are the positions with that parent. -/
theorem mem_siblings {i : Nat} :
    i ∈ siblings records parent ↔ i < records.length ∧ parentAt? records i = parent := by
  rw [siblings, List.mem_map]
  constructor
  · rintro ⟨e, he, rfl⟩
    obtain ⟨hmem, hparent⟩ := mem_below.1 (mem_inOrder.1 he)
    rw [parent?_entries hmem] at hparent
    exact ⟨(List.getElem?_eq_some_iff.1 (mem_entries.1 hmem)).1, hparent⟩
  · rintro ⟨hi, hparent⟩
    obtain ⟨e, he, rfl⟩ := exists_mem_entries hi
    exact ⟨e, mem_inOrder.2 (mem_below.2 ⟨he, (parent?_entries he).trans hparent⟩), rfl⟩

/-- Those below a record are the others that name it. -/
theorem mem_siblings_some {i j : Nat} :
    i ∈ siblings records (some j) ↔ j ≠ i ∧ Names records i j := by
  rw [mem_siblings, parentAt?_eq_some_iff]
  refine and_iff_right_of_imp fun ⟨_, hnames⟩ ↦ ?_
  obtain ⟨r, -, -, hr, -⟩ := hnames
  exact (List.getElem?_eq_some_iff.1 hr).1

/-- Siblings stand in the order of their indexes, and with equal indexes as they came. -/
theorem pairwise_siblings (records : List MenuRecord) (parent : Option Nat) :
    (siblings records parent).Pairwise (Before records) := by
  rw [siblings, List.pairwise_map]
  refine (pairwise_inOrder ((pairwise_entries records).filter _)).imp_of_mem
    fun {a b} ha hb hab ↦ ?_
  have hmem {e : Entry}
      (he : e ∈ inOrder (below (entries records) (entries records) parent)) :
      records[e.2]? = some e.1 := mem_entries.1 (mem_below.1 (mem_inOrder.1 he)).1
  exact ⟨a.1, b.1, hmem ha, hmem hb, hab⟩

/-- **The menu forest follows who names whom.** The forest of a list of records is one of positions:
the roots are the positions whose records name no other, and the children of each node are the other
positions whose records name it, so a record without an id has none. At every level those with
smaller indexes come first, and those with equal indexes as they came. -/
theorem hierarchy_siblings (records : List MenuRecord) :
    ∃ placed : Forest Nat,
      Forest.map some (hierarchy records) = Forest.map (fun i ↦ records[i]?) placed ∧
      (∀ i, i ∈ Forest.labels placed ↔
        i < records.length ∧ ∀ j, Names records i j → j = i) ∧
      (Forest.labels placed).Pairwise (Before records) ∧
      ∀ t, Forest.HasNode placed t →
        (∀ i, i ∈ Forest.labels t.children ↔ t.label ≠ i ∧ Names records i t.label) ∧
        (Forest.labels t.children).Pairwise (Before records) ∧
        ∀ r, records[t.label]? = some r → r.id = none → t.children = [] := by
  have hinj : ∀ a ∈ entries records, ∀ b ∈ entries records, a.2 = b.2 → a = b :=
    fun _ ha _ hb ↦ eq_of_mem_entries ha hb
  refine ⟨Forest.map (·.2) (grow (entries records) (entries records) none), ?_, ?_⟩
  · rw [hierarchy, Forest.map_map, Forest.map_map]
    refine Forest.map_congr fun e he ↦ ?_
    exact (mem_entries.1 ((mem_flatten_grow _ _ _ _).1 he).mem_pool).symm
  · have hroots : Forest.labels
        (Forest.map (·.2) (grow (entries records) (entries records) none)) =
          siblings records none := by
      rw [Forest.labels_map, labels_grow]
      rfl
    rw [hroots]
    refine ⟨fun i ↦ ?_, pairwise_siblings records none, fun t ht ↦ ?_⟩
    · rw [mem_siblings, parentAt?_eq_none_iff]
    · obtain ⟨s, hs, rfl⟩ := ht.of_map
      have hchildren : Forest.labels (s.map (·.2)).children =
          siblings records (some (s.map (·.2)).label) := by
        rw [Tree.children_map, Forest.labels_map, Tree.label_map,
          labels_children_of_hasNode (left_all _) hinj hs]
        rfl
      rw [hchildren]
      refine ⟨fun i ↦ mem_siblings_some, pairwise_siblings _ _, fun r hr hid ↦ ?_⟩
      -- whoever is named has an id
      have hnone : Forest.labels (s.map (·.2)).children = [] := by
        rw [hchildren, List.eq_nil_iff_forall_not_mem]
        intro i hi
        obtain ⟨-, q, id, -, -, hq, hqid, -⟩ := (mem_siblings_some.1 hi).2
        rw [hr] at hq
        cases hq
        rw [hid] at hqid
        cases hqid
      exact List.map_eq_nil_iff.1 hnone

end PitchDesk.Menu
