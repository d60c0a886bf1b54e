import PitchDesk.Proofs.Sidebar

/-!
# Getting to every line of a menu

The cursor moves by a line at a time, and folds or unfolds the group that it is on. That is enough
to get it to every line of the menu, whatever is folded and wherever the cursor is,
`exists_ops_of_line`. A line that is not visible stands below a folded group that is, so unfolding
visible groups brings it out sooner or later, since each time fewer names are folded.

While nothing is folded, the lines are the records of the menu in the order of the walk. So the
views that the lines lead to are those that the records do, `filterMap_view?_visible`, and the
cursor can be put on the first line of each, `exists_selectView?_eq`.

The induction is on the number of folded names, and not on how deep the line stands: unfolding a
group may bring out lines at other places of the menu too, since groups are folded by name, but it
always leaves fewer names folded.
-/

namespace PitchDesk

/-! ### One place at a time -/

/-- A place among some that is moved, but not past the first or the last. -/
def stride (last place : Nat) (delta : Int) : Nat :=
  min (place + delta).toNat last

/-- Moved by one place at a time, one gets from anywhere to every place. -/
theorem exists_strides {last i : Nat} (hi : i ≤ last) (place : Nat) :
    ∃ ds : List Int, (∀ δ ∈ ds, δ = 1 ∨ δ = -1) ∧ ds.foldl (stride last) place = i := by
  -- every move comes nearer, from places beyond the last one too
  induction h : (i - place) + (place - i) using Nat.strong_induction_on generalizing place with
  | _ n ih =>
    rcases Nat.lt_trichotomy place i with hlt | rfl | hlt
    · have hnext : stride last place 1 = place + 1 := by
        simp only [stride]
        omega
      obtain ⟨ds, hds, hi⟩ := ih _ (by omega) (place + 1) rfl
      exact ⟨1 :: ds, List.forall_mem_cons.2 ⟨.inl rfl, hds⟩, by rwa [List.foldl_cons, hnext]⟩
    · exact ⟨[], nofun, rfl⟩
    · have hnext : i ≤ stride last place (-1) ∧ stride last place (-1) < place := by
        simp only [stride]
        omega
      obtain ⟨ds, hds, hi⟩ := ih _ (by omega) (stride last place (-1)) rfl
      exact ⟨-1 :: ds, List.forall_mem_cons.2 ⟨.inr rfl, hds⟩, hi⟩

namespace Sidebar

variable {s : Sidebar} {folded above : List String} {l : Line}

/-! ### Every line of a menu -/

mutual

/-- While nothing is folded, the lines of a tree are its nodes in the order of the walk. -/
theorem label_linesTree (above : List String) :
    ∀ t : Tree MenuRecord, (linesTree [] above t).map (·.node.label) = t.flatten
  | .node r ts => by
    rw [linesTree, if_neg (by simp), List.map_cons, label_linesForest (r.name :: above) ts]
    rfl

theorem label_linesForest (above : List String) :
    ∀ ts : Forest MenuRecord,
      (linesForest [] above ts).map (·.node.label) = Tree.flattenAll ts
  | [] => rfl
  | t :: ts => by
    rw [linesForest, List.map_append, label_linesTree above t, label_linesForest above ts]
    rfl

end

/-- Where nothing is folded, the views that the lines lead to are those that the records do. -/
theorem filterMap_view?_visible (menu : Forest MenuRecord) (collapsed : Bool) :
    (ofMenu menu collapsed).visible.filterMap Entry.view? =
      menu.flatten.filterMap fun r ↦ Resource.ofRoute? r.path := by
  rw [visible_eq, List.filterMap_map, Forest.flatten, ← label_linesForest [], List.filterMap_map]
  rfl

/-- To leave repetitions out does not change what is found first. -/
theorem find?_firstOccurrences {α : Type} [BEq α] [LawfulBEq α] (p : α → Bool) (xs : List α) :
    (firstOccurrences xs).find? p = xs.find? p := by
  suffices hseen : ∀ seen : List α,
      (xs.foldl (fun seen x ↦ if seen.contains x then seen else seen ++ [x]) seen).find? p =
        (seen ++ xs).find? p from hseen []
  induction xs with
  | nil =>
    intro seen
    rw [List.append_nil]
    rfl
  | cons x xs ih =>
    intro seen
    rw [List.foldl_cons, ih]
    split
    · rename_i hmem
      rw [List.find?_append, List.find?_append, List.find?_cons]
      split
      · -- what is repeated has been found before
        rename_i hx
        have hsome : (seen.find? p).isSome :=
          List.find?_isSome.2 ⟨x, List.contains_iff_mem.1 hmem, hx⟩
        rw [Option.or_of_isSome hsome, Option.or_of_isSome hsome]
      · rfl
    · rw [List.append_assoc, List.singleton_append]

/-- To leave repetitions out leaves nothing else out. -/
theorem mem_firstOccurrences {α : Type} [BEq α] [LawfulBEq α] {x : α} {xs : List α} :
    x ∈ firstOccurrences xs ↔ x ∈ xs := by
  have hmem (ys : List α) : (ys.find? (· == x)).isSome ↔ x ∈ ys := by simp
  rw [← hmem, ← hmem, find?_firstOccurrences]

/-- The views that something in the menu leads to, whether it is a group or not. -/
theorem mem_routableViews_iff {v : Resource} :
    v ∈ s.routableViews ↔ ∃ e ∈ (ofMenu s.menu false).visible, e.view? = some v := by
  rw [routableViews, mem_firstOccurrences, ← filterMap_view?_visible s.menu false,
    List.mem_filterMap]

mutual

/-- A line of a tree is visible, or it stands below a visible group that is folded. -/
theorem mem_linesTree_or_folded (folded : List String) :
    ∀ (above : List String) (t : Tree MenuRecord), ∀ l ∈ linesTree [] above t,
      l ∈ linesTree folded above t ∨
        ∃ k ∈ linesTree folded above t, k.node.isGroup = true ∧ k.node.label.name ∈ folded
  | above, .node r ts, l, hl => by
    rw [linesTree, if_neg (by simp), List.mem_cons] at hl
    rw [linesTree]
    rcases hl with rfl | hl
    · exact .inl List.mem_cons_self
    · by_cases hfolded : folded.contains r.name = true
      · have hgroup : (Tree.node r ts).isGroup = true := by
          cases ts with
          | nil => cases hl
          | cons => rfl
        exact .inr ⟨_, List.mem_cons_self, hgroup, List.contains_iff_mem.1 hfolded⟩
      · rw [if_neg hfolded]
        exact (mem_linesForest_or_folded folded (r.name :: above) ts l hl).imp
          (List.mem_cons_of_mem _) fun ⟨k, hk, h⟩ ↦ ⟨k, List.mem_cons_of_mem _ hk, h⟩

theorem mem_linesForest_or_folded (folded : List String) :
    ∀ (above : List String) (ts : Forest MenuRecord), ∀ l ∈ linesForest [] above ts,
      l ∈ linesForest folded above ts ∨
        ∃ k ∈ linesForest folded above ts, k.node.isGroup = true ∧ k.node.label.name ∈ folded
  | _, [], _, hl => by cases hl
  | above, t :: ts, l, hl => by
    rw [linesForest, List.mem_append] at hl
    rw [linesForest]
    rcases hl with hl | hl
    · exact (mem_linesTree_or_folded folded above t l hl).imp
        (List.mem_append_left _) fun ⟨k, hk, h⟩ ↦ ⟨k, List.mem_append_left _ hk, h⟩
    · exact (mem_linesForest_or_folded folded above ts l hl).imp
        (List.mem_append_right _) fun ⟨k, hk, h⟩ ↦ ⟨k, List.mem_append_right _ hk, h⟩

end

/-! ### Getting there -/

/-- What a single key does: it moves the cursor by a line, or folds or unfolds a group. -/
def smallOps : List Op :=
  [.moveCursor 1, .moveCursor (-1), .toggleExpanded]

/-- Moving the cursor line by line changes nothing but the cursor. -/
theorem after_moveCursor (s : Sidebar) (ds : List Int) :
    s.after (ds.map .moveCursor) =
      { s with cursor := ds.foldl (stride (s.visible.length - 1)) s.cursor } := by
  induction ds generalizing s with
  | nil => rfl
  | cons δ ds ih => exact ih (s.moveCursor δ)

/-- What is done in two parts is done to the sidebar that the first part led to. -/
theorem after_append (s : Sidebar) (ops ops' : List Op) :
    s.after (ops ++ ops') = (s.after ops).after ops' :=
  List.foldl_append

/-- The cursor gets to every visible line. -/
theorem exists_after_eq {i : Nat} (hi : i < s.visible.length) :
    ∃ ops, (∀ op ∈ ops, op ∈ smallOps) ∧ s.after ops = { s with cursor := i } := by
  obtain ⟨ds, hds, hplace⟩ := exists_strides (Nat.le_sub_one_of_lt hi) s.cursor
  refine ⟨ds.map .moveCursor, List.forall_mem_map.2 fun δ hδ ↦ ?_, ?_⟩
  · rcases hds δ hδ with rfl | rfl <;> simp [smallOps]
  · rw [after_moveCursor, hplace]

/-- **The cursor gets to every line of the menu**, be it visible or not. -/
theorem exists_ops_of_line (s : Sidebar) (hl : l ∈ linesForest [] [] s.menu) :
    ∃ ops, (∀ op ∈ ops, op ∈ smallOps) ∧
      (s.after ops).lines[(s.after ops).cursor]? = some l := by
  induction h : s.folded.length using Nat.strong_induction_on generalizing s with
  | _ n ih =>
    have hget {k : Line} (hk : k ∈ s.lines) :
        ∃ i ops, (∀ op ∈ ops, op ∈ smallOps) ∧ s.after ops = { s with cursor := i } ∧
          s.lines[i]? = some k := by
      obtain ⟨i, hi, rfl⟩ := List.getElem_of_mem hk
      obtain ⟨ops, hops, hafter⟩ := exists_after_eq (hi.trans_eq (length_visible s).symm)
      exact ⟨i, ops, hops, hafter, List.getElem?_eq_getElem hi⟩
    rcases mem_linesForest_or_folded s.folded [] s.menu l hl with hl | ⟨k, hk, hgroup, hfolded⟩
    · obtain ⟨i, ops, hops, hafter, hi⟩ := hget hl
      exact ⟨ops, hops, by rw [hafter]; exact hi⟩
    · -- the group is unfolded, so fewer names are folded
      obtain ⟨i, ops, hops, hafter, hi⟩ := hget hk
      have hunfold : (s.after ops).step .toggleExpanded =
          { s with cursor := i, folded := s.folded.erase k.node.label.name } := by
        rw [hafter, step_toggleExpanded (s := { s with cursor := i }) hi hgroup, toggleFolded,
          if_pos (List.contains_iff_mem.2 hfolded)]
      have hlt : (s.folded.erase k.node.label.name).length < n := by
        rw [List.length_erase_of_mem hfolded, ← h]
        exact Nat.sub_one_lt_of_lt (List.length_pos_of_mem hfolded)
      obtain ⟨ops', hops', hcursor⟩ :=
        ih _ hlt { s with cursor := i, folded := s.folded.erase k.node.label.name } hl rfl
      refine ⟨ops ++ .toggleExpanded :: ops', ?_, ?_⟩
      · rw [List.forall_mem_append, List.forall_mem_cons]
        exact ⟨hops, by simp [smallOps], hops'⟩
      · have hafter' : (s.after ops).after (.toggleExpanded :: ops') =
            ((s.after ops).step .toggleExpanded).after ops' := rfl
        rw [after_append, hafter', hunfold]
        exact hcursor

/-! ### Lines that lead to a view -/

/-- Some entry of a menu leads to a view, and is no group. -/
def LeadsTo (menu : Forest MenuRecord) (v : Resource) : Prop :=
  ∃ e ∈ (ofMenu menu false).visible, e.isGroup = false ∧ e.view? = some v

variable {v : Resource}

/-- An entry that leads to a view is a line whose record has the path of the view. -/
theorem leadsTo_iff {menu : Forest MenuRecord} :
    LeadsTo menu v ↔
      ∃ l ∈ linesForest [] [] menu, l.node.isGroup = false ∧
        Resource.ofRoute? l.node.label.path = some v := by
  rw [LeadsTo, visible_eq]
  simp only [List.mem_map, exists_exists_and_eq_and]
  rfl

/-- The selected line is one of the menu. -/
theorem leadsTo_of_selected? {e : Entry} (he : s.selected? = some e) (hgroup : e.isGroup = false)
    (hview : e.view? = some v) : LeadsTo s.menu v := by
  rw [selected?_eq] at he
  obtain ⟨l, hl, rfl⟩ := Option.map_eq_some_iff.1 he
  have hmem := (linesForest_sublist (List.nil_subset s.folded) [] s.menu).subset
    (List.mem_of_getElem? hl)
  exact leadsTo_iff.2 ⟨l, hmem, hgroup, hview⟩

/-- The cursor gets to an entry that leads to a view, if there is one. -/
theorem LeadsTo.exists_ops (h : LeadsTo s.menu v) :
    ∃ ops e, (∀ op ∈ ops, op ∈ smallOps) ∧ (s.after ops).selected? = some e ∧
      e.isGroup = false ∧ e.view? = some v := by
  obtain ⟨l, hl, hgroup, hview⟩ := leadsTo_iff.1 h
  obtain ⟨ops, hops, hcursor⟩ := s.exists_ops_of_line hl
  refine ⟨ops, entryOf (s.after ops).folded l.above.length l.node, hops, ?_, hgroup, hview⟩
  rw [selected?_eq, hcursor]
  rfl

/-- If some visible line leads to a view, the cursor is put on the first one that does. -/
theorem exists_selectView?_eq (h : ∃ e ∈ s.visible, e.view? = some v) :
    ∃ i e, s.selectView? v = some { s with cursor := i } ∧ s.visible[i]? = some e ∧
      e.view? = some v ∧ ∀ e' ∈ s.visible.take i, e'.view? ≠ some v := by
  obtain ⟨e, he, hview⟩ := h
  obtain ⟨i, hi⟩ := Option.isSome_iff_exists.1 ((List.findIdx?_isSome
    (p := fun e ↦ e.view? == some v)).trans (List.any_eq_true.2 ⟨e, he, by simp [hview]⟩))
  obtain ⟨hlt, hfound, hbefore⟩ := List.findIdx?_eq_some_iff_getElem.1 hi
  refine ⟨i, _, by rw [selectView?, hi]; rfl, List.getElem?_eq_getElem hlt,
    by simpa using hfound, fun e' he' ↦ ?_⟩
  obtain ⟨j, hj, rfl⟩ := List.mem_take_iff_getElem.1 he'
  simpa using hbefore j (Nat.lt_min.1 hj).1

end Sidebar

end PitchDesk
