import PitchDesk.Menu.Preset
import PitchDesk.Proofs.Forest
import PitchDesk.Proofs.Menu.Parents

/-!
# What a menu forest holds

The walk through the forest of a list of menu records meets the record of every rooted position
once, and nothing else: `preorder_hierarchy`. Names and ids may repeat, so the statement is about
positions.

The forest is grown from a pool of entries that loses a level at a time. `Under` is what a pool
holds below a position, and it does not change when the level above is taken away: whoever is not
on that level keeps the whole way up, `under_iff`.

## Induction on the pool

Taking a level away makes the pool smaller unless the level is empty, and then nothing grows
(`grow_of_below_eq_nil`). So the recursion ends on every list of records, those included whose
records name each other in a circle: such a circle hangs on no root, is never taken out of the pool
and never met. `mem_flatten_grow` and `nodup_flatten_grow` follow this recursion, each with
`under_iff` as its step. That nothing is met twice rests on there being one way up from each entry,
`eq_of_under_of_under`.
-/

namespace PitchDesk.Menu

variable {es pool : List Entry} {parent : Option Nat} {e : Entry}

/-! ### What is below a position in a pool -/

/-- The way up from an entry comes to a position, over entries of the pool alone. -/
inductive Under (es pool : List Entry) (parent : Option Nat) : Entry → Prop
  | here {e : Entry} (he : e ∈ pool) (h : parent? es e = parent) : Under es pool parent e
  | there {e q : Entry} (he : e ∈ pool) (h : parent? es e = some q.2)
      (hq : Under es pool parent q) : Under es pool parent e

/-- A level holds the entries of the pool with one parent. -/
theorem mem_below : e ∈ below es pool parent ↔ e ∈ pool ∧ parent? es e = parent := by
  simp [below]

theorem mem_notBelow : e ∈ notBelow es pool parent ↔ e ∈ pool ∧ parent? es e ≠ parent := by
  simp [notBelow]

/-- What is below a position in a pool is in the pool. -/
theorem Under.mem_pool (h : Under es pool parent e) : e ∈ pool := by
  cases h with
  | here he _ => exact he
  | there he _ _ => exact he

/-- What is below an entry of the first level is below the position too. -/
theorem under_of_notBelow {q : Entry} (hq : q ∈ below es pool parent)
    (h : Under es (notBelow es pool parent) (some q.2) e) : Under es pool parent e := by
  obtain ⟨hqmem, hqparent⟩ := mem_below.1 hq
  induction h with
  | here he hparent => exact .there (mem_notBelow.1 he).1 hparent (.here hqmem hqparent)
  | there he hparent _ ih => exact .there (mem_notBelow.1 he).1 hparent ih

/-- An entry is below a position if it is on the first level, or below an entry of the first level
when that level is taken away. -/
theorem under_iff : Under es pool parent e ↔
    ∃ q ∈ below es pool parent, e = q ∨ Under es (notBelow es pool parent) (some q.2) e := by
  constructor
  · intro h
    induction h with
    | here he hparent => exact ⟨_, mem_below.2 ⟨he, hparent⟩, .inl rfl⟩
    | @there e q he hparent _ ih =>
      by_cases hfirst : parent? es e = parent
      · exact ⟨e, mem_below.2 ⟨he, hfirst⟩, .inl rfl⟩
      · have hrest : e ∈ notBelow es pool parent := mem_notBelow.2 ⟨he, hfirst⟩
        obtain ⟨q', hq', rfl | hq⟩ := ih
        · exact ⟨_, hq', .inr (.here hrest hparent)⟩
        · exact ⟨q', hq', .inr (.there hrest hparent hq)⟩
  · rintro ⟨q, hq, rfl | h⟩
    · exact .here (mem_below.1 hq).1 (mem_below.1 hq).2
    · exact under_of_notBelow hq h

/-- Nothing is below two entries of the first level: there is one way up from each entry. -/
theorem eq_of_under_of_under {q q' : Entry} (hinj : ∀ a ∈ pool, ∀ b ∈ pool, a.2 = b.2 → a = b)
    (hq : q ∈ below es pool parent) (hq' : q' ∈ below es pool parent)
    (h : Under es (notBelow es pool parent) (some q.2) e)
    (h' : Under es (notBelow es pool parent) (some q'.2) e) : q = q' := by
  have hmem {a : Entry} (ha : a ∈ below es pool parent) : a ∈ pool := (mem_below.1 ha).1
  -- The way up from `e` cannot meet the first level before it ends there.
  have hnot {a b : Entry} (ha : a ∈ below es pool parent)
      (hb : Under es (notBelow es pool parent) (some q'.2) b ∨
        Under es (notBelow es pool parent) (some q.2) b) (hab : b.2 = a.2) : False := by
    have hbmem : b ∈ notBelow es pool parent := hb.elim Under.mem_pool Under.mem_pool
    obtain ⟨hbpool, hbparent⟩ := mem_notBelow.1 hbmem
    rw [hinj b hbpool a (hmem ha) hab] at hbparent
    exact hbparent (mem_below.1 ha).2
  induction h with
  | here he hparent =>
    cases h' with
    | here _ hparent' =>
      exact hinj q (hmem hq) q' (hmem hq') (Option.some.inj (hparent.symm.trans hparent'))
    | there _ hparent' hr =>
      exact (hnot hq (.inl hr) (Option.some.inj (hparent'.symm.trans hparent))).elim
  | there he hparent hr ih =>
    cases h' with
    | here _ hparent' =>
      exact (hnot hq' (.inr hr) (Option.some.inj (hparent.symm.trans hparent'))).elim
    | there _ hparent' hr' =>
      have hrr := hinj _ (mem_notBelow.1 hr.mem_pool).1 _ (mem_notBelow.1 hr'.mem_pool).1
        (Option.some.inj (hparent.symm.trans hparent'))
      exact ih (hrr ▸ hr')

/-! ### The walk -/

/-- Sorting leaves the entries of a level the same. -/
theorem mem_inOrder {siblings : List Entry} : e ∈ inOrder siblings ↔ e ∈ siblings :=
  List.mem_mergeSort

/-- From an empty level nothing grows. -/
theorem grow_of_below_eq_nil (h : below es pool parent = []) : grow es pool parent = [] := by
  rw [grow, dif_pos h]

/-- The walk goes through the first level in order, and after each entry through what grows below
it. -/
theorem flatten_grow (es pool : List Entry) (parent : Option Nat) :
    Forest.flatten (grow es pool parent) = (inOrder (below es pool parent)).flatMap fun e ↦
      e :: Forest.flatten (grow es (notBelow es pool parent) (some e.2)) := by
  by_cases h : below es pool parent = []
  · rw [grow_of_below_eq_nil h, h, inOrder, List.mergeSort_nil]
    rfl
  · rw [grow, dif_neg h, Forest.flatten_eq_flatMap, List.flatMap_map]
    rfl

/-- The walk meets what is below the position. -/
theorem mem_flatten_grow (es pool : List Entry) (parent : Option Nat) (e : Entry) :
    e ∈ Forest.flatten (grow es pool parent) ↔ Under es pool parent e := by
  rw [flatten_grow, under_iff, List.mem_flatMap]
  by_cases h : below es pool parent = []
  · simp [h, inOrder]
  · -- what grows further down comes from a smaller pool
    have := length_notBelow_lt es pool parent h
    simp only [mem_inOrder, List.mem_cons,
      mem_flatten_grow es (notBelow es pool parent) (some _)]
termination_by pool.length

/-- The walk meets nothing twice. -/
theorem nodup_flatten_grow (es pool : List Entry) (parent : Option Nat) (hpool : pool.Nodup)
    (hinj : ∀ a ∈ pool, ∀ b ∈ pool, a.2 = b.2 → a = b) :
    (Forest.flatten (grow es pool parent)).Nodup := by
  by_cases h : below es pool parent = []
  · rw [grow_of_below_eq_nil h]
    exact List.nodup_nil
  · have hlt := length_notBelow_lt es pool parent h
    have hrest : (notBelow es pool parent).Nodup := hpool.filter _
    have hrestinj : ∀ a ∈ notBelow es pool parent, ∀ b ∈ notBelow es pool parent,
        a.2 = b.2 → a = b := fun a ha b hb ↦ hinj a (mem_notBelow.1 ha).1 b (mem_notBelow.1 hb).1
    have hlevel : (inOrder (below es pool parent)).Nodup :=
      (List.mergeSort_perm _ _).nodup_iff.2 (hpool.filter _)
    -- no entry of the first level comes again further down
    have hdown {q r : Entry} (hq : q ∈ inOrder (below es pool parent)) :
        q ∉ Forest.flatten (grow es (notBelow es pool parent) (some r.2)) := fun hmem ↦
      (mem_notBelow.1 ((mem_flatten_grow _ _ _ _).1 hmem).mem_pool).2
        (mem_below.1 (mem_inOrder.1 hq)).2
    rw [flatten_grow, List.nodup_flatMap]
    refine ⟨fun q hq ↦ ?_, hlevel.imp_of_mem fun {q q'} hq hq' hne ↦ ?_⟩
    · exact List.nodup_cons.2 ⟨hdown hq, nodup_flatten_grow es _ _ hrest hrestinj⟩
    · refine List.disjoint_left.2 fun e he he' ↦ ?_
      rcases List.mem_cons.1 he with rfl | he
      · rcases List.mem_cons.1 he' with rfl | he'
        · exact hne rfl
        · exact hdown hq he'
      · rcases List.mem_cons.1 he' with rfl | he'
        · exact hdown hq' he
        · exact hne (eq_of_under_of_under hinj (mem_inOrder.1 hq) (mem_inOrder.1 hq')
            ((mem_flatten_grow _ _ _ _).1 he) ((mem_flatten_grow _ _ _ _).1 he'))
termination_by pool.length

/-! ### The menu forest -/

/-- From the whole list, what is below no position are the rooted entries. -/
theorem under_none_iff {records : List MenuRecord} :
    Under (entries records) (entries records) none e ↔
      e ∈ entries records ∧ Rooted records e.2 := by
  constructor
  · intro h
    induction h with
    | here he hparent =>
      rw [parent?_entries he] at hparent
      exact ⟨he, .root (List.getElem?_eq_some_iff.1 (mem_entries.1 he)).1 hparent⟩
    | there he hparent _ ih =>
      rw [parent?_entries he] at hparent
      exact ⟨he, .child hparent ih.2⟩
  · rintro ⟨he, hrooted⟩
    generalize hi : e.2 = i at hrooted
    induction hrooted generalizing e with
    | root _ hparent => exact .here he ((parent?_entries he).trans (hi ▸ hparent))
    | @child i j hparent hj ih =>
      obtain ⟨q, hq, rfl⟩ := exists_mem_entries hj.lt_length
      exact .there he ((parent?_entries he).trans (hi ▸ hparent)) (ih hq rfl)

/-- The positions of a menu forest, in the order of the walk. -/
def positions (records : List MenuRecord) : List Nat :=
  (Forest.flatten (grow (entries records) (entries records) none)).map (·.2)

/-- The positions of the forest are the rooted ones. -/
theorem mem_positions {records : List MenuRecord} {i : Nat} :
    i ∈ positions records ↔ Rooted records i := by
  rw [positions, List.mem_map]
  constructor
  · rintro ⟨e, he, rfl⟩
    exact (under_none_iff.1 ((mem_flatten_grow _ _ _ _).1 he)).2
  · intro h
    obtain ⟨e, he, rfl⟩ := exists_mem_entries h.lt_length
    exact ⟨e, (mem_flatten_grow _ _ _ _).2 (under_none_iff.2 ⟨he, h⟩), rfl⟩

/-- No position is met twice. -/
theorem nodup_positions (records : List MenuRecord) : (positions records).Nodup := by
  have hinj : ∀ a ∈ entries records, ∀ b ∈ entries records, a.2 = b.2 → a = b :=
    fun _ ha _ hb ↦ eq_of_mem_entries ha hb
  have hmem {e : Entry} (he : e ∈ Forest.flatten (grow (entries records) (entries records) none)) :
      e ∈ entries records := ((mem_flatten_grow _ _ _ _).1 he).mem_pool
  refine List.Nodup.map_on ?_ (nodup_flatten_grow _ _ _ nodup_entries hinj)
  exact fun a ha b hb ↦ hinj a (hmem ha) b (hmem hb)

/-- The walk meets the records of its positions. -/
theorem flatten_hierarchy (records : List MenuRecord) :
    (Forest.flatten (hierarchy records)).map some =
      (positions records).map fun i ↦ records[i]? := by
  rw [hierarchy, Forest.flatten_map, positions, List.map_map, List.map_map]
  refine List.map_congr_left fun e he ↦ ?_
  exact (mem_entries.1 ((mem_flatten_grow _ _ _ _).1 he).mem_pool).symm

/-- **The menu holds every rooted record once.** The walk through the forest of a list of records
goes over positions without repetition, and these are the positions from which the way up ends. So
where no way up comes back to where it began, the walk is a rearrangement of the list. -/
theorem preorder_hierarchy (records : List MenuRecord) :
    (∃ walk : List Nat, walk.Nodup ∧ (∀ i, i ∈ walk ↔ Rooted records i) ∧
      (Forest.flatten (hierarchy records)).map some = walk.map fun i ↦ records[i]?) ∧
    (Acyclic records → (Forest.flatten (hierarchy records)).Perm records) := by
  refine ⟨⟨_, nodup_positions records, fun _ ↦ mem_positions, flatten_hierarchy records⟩, ?_⟩
  intro h
  -- every position is rooted, so the walk goes over all of them
  have hall : (positions records).Perm (List.range records.length) := by
    refine (List.perm_ext_iff_of_nodup (nodup_positions records) List.nodup_range).2 fun i ↦ ?_
    rw [mem_positions, List.mem_range]
    exact ⟨Rooted.lt_length, rooted_of_acyclic h⟩
  have hrange : (List.range records.length).map (fun i ↦ records[i]?) = records.map some :=
    List.ext_getElem (by simp) fun i hi _ ↦ by simp
  have hsome : ((Forest.flatten (hierarchy records)).map some).Perm (records.map some) := by
    rw [flatten_hierarchy, ← hrange]
    exact hall.map _
  simpa using hsome.filterMap id

/-- Two presets one after the other, so that ids repeat: the walk meets all records of both. -/
theorem preorder_of_repeated_ids :
    Acyclic (adminPreset ++ vendorPreset) ∧
      (Forest.flatten (hierarchy (adminPreset ++ vendorPreset))).Perm
        (adminPreset ++ vendorPreset) := by
  have hparents : ∀ i < (adminPreset ++ vendorPreset).length,
      ∀ j ∈ parentAt? (adminPreset ++ vendorPreset) i,
        (if j = 1 ∨ j = 7 then 0 else 1) < if i = 1 ∨ i = 7 then 0 else 1 := by decide
  have hacyclic : Acyclic (adminPreset ++ vendorPreset) :=
    acyclic_of_lt _ fun i j h ↦ hparents i (lt_length_of_parentAt? h).1 j h
  exact ⟨hacyclic, (preorder_hierarchy _).2 hacyclic⟩

end PitchDesk.Menu
