import Mathlib.Data.List.Permutation
import PitchDesk.Menu.Hierarchy
import PitchDesk.Sample.Accounts
import PitchDesk.Sidebar

/-!
# The cursor of the sidebar

What is visible of a menu is looked at as lines, each a node with the names of those that it stands
below: `lines`. Folding groups of a name takes away the lines that stand below such a name,
`linesForest_of_folded`, and these may stand anywhere, since groups are folded by name. So a fold
can take lines away above the cursor, and if it takes more of them than it leaves below, the cursor
is beyond the last line. All else that changes the lines or the cursor keeps the cursor on a line.

`cursorInRange_after_iff` says exactly when the cursor is on a line. In menus whose groups have
distinct names it always is, because then only lines below the cursor go away with a fold,
`DistinctGroups.not_mem_above`.

## Lines, and not entries

An entry, which is what the sidebar shows, tells its depth and its own name but not below which
names it stands, and only these say whether a fold of some name takes it away. With lines a fold is
a filter on the list of lines, and that the cursor stays on one is a count before and after it,
`lt_length_filter_iff`. The entries are read off the lines, `visible_eq`.

All lemmas on lines come in two, for a tree and for a forest, as the recursion of `linesTree` and
`linesForest` does. The lists of names above a line begin with the nearest.

## Along everything that is done

A cursor that is lost comes back only if something puts it on a line. So the condition for being on
one is not about the last thing that was done, but about all folds that lost the cursor: each of
them has been made good since, `BroughtBack`.
-/

namespace PitchDesk.Sidebar

/-- A visible node of a menu with the names of the nodes that it stands below. -/
structure Line where
  above : List String
  node : Tree MenuRecord

mutual

/-- The visible nodes of a tree that stands below some names. -/
def linesTree (folded above : List String) : Tree MenuRecord → List Line
  | .node r ts =>
    ⟨above, .node r ts⟩ ::
      if folded.contains r.name then [] else linesForest folded (r.name :: above) ts

/-- The visible nodes of a forest that stands below some names. -/
def linesForest (folded above : List String) : Forest MenuRecord → List Line
  | [] => []
  | t :: ts => linesTree folded above t ++ linesForest folded above ts

end

/-- The visible nodes of the menu. -/
def lines (s : Sidebar) : List Line :=
  linesForest s.folded [] s.menu

/-- The names of the groups among some nodes. -/
def groupNames (nodes : List (Nat × Tree MenuRecord)) : List String :=
  (nodes.filter (·.2.isGroup)).map (·.2.label.name)

/-- No two groups of a menu have a name in common. -/
def DistinctGroups (menu : Forest MenuRecord) : Prop :=
  (groupNames menu.withDepth).Nodup

variable {s : Sidebar} {folded folded' above : List String} {name : String} {depth : Nat}

/-! ### Lines -/

mutual

/-- The entries of a tree are those of its lines, at the depth of the names above. -/
theorem visibleTree_eq (folded above : List String) :
    ∀ t : Tree MenuRecord, visibleTree folded above.length t =
      (linesTree folded above t).map fun l ↦ entryOf folded l.above.length l.node
  | .node r ts => by
    rw [visibleTree, linesTree, List.map_cons]
    split
    · rfl
    · rw [← visibleForest_eq folded (r.name :: above) ts, List.length_cons]

theorem visibleForest_eq (folded above : List String) :
    ∀ ts : Forest MenuRecord, visibleForest folded above.length ts =
      (linesForest folded above ts).map fun l ↦ entryOf folded l.above.length l.node
  | [] => rfl
  | t :: ts => by
    rw [visibleForest, linesForest, List.map_append, visibleTree_eq folded above t,
      visibleForest_eq folded above ts]

end

/-- What is visible are the lines. -/
theorem visible_eq (s : Sidebar) :
    s.visible = s.lines.map fun l ↦ entryOf s.folded l.above.length l.node :=
  visibleForest_eq s.folded [] s.menu

theorem length_visible (s : Sidebar) : s.visible.length = s.lines.length := by
  rw [visible_eq, List.length_map]

/-- Only an empty menu has no line, since its topmost nodes are always visible. -/
theorem lines_eq_nil_iff : s.lines = [] ↔ s.menu = [] := by
  unfold lines
  cases s.menu with
  | nil => exact iff_of_true rfl rfl
  | cons t ts =>
    cases t
    refine iff_of_false ?_ nofun
    rw [linesForest, linesTree]
    exact nofun

mutual

/-- A line of a tree stands below everything that the tree stands below. -/
theorem above_subset_of_mem_linesTree :
    ∀ {above : List String} {t : Tree MenuRecord}, ∀ l ∈ linesTree folded above t, above ⊆ l.above
  | above, .node r ts, l, hl => by
    rw [linesTree, List.mem_cons] at hl
    rcases hl with rfl | hl
    · exact fun _ h ↦ h
    · split at hl
      · cases hl
      · exact fun n hn ↦ above_subset_of_mem_linesForest l hl (List.mem_cons_of_mem _ hn)

theorem above_subset_of_mem_linesForest :
    ∀ {above : List String} {ts : Forest MenuRecord}, ∀ l ∈ linesForest folded above ts,
      above ⊆ l.above
  | _, [], _, hl => by cases hl
  | above, t :: ts, l, hl => by
    rw [linesForest, List.mem_append] at hl
    rcases hl with hl | hl
    · exact above_subset_of_mem_linesTree l hl
    · exact above_subset_of_mem_linesForest l hl

end

mutual

/-- Folding a name takes away the lines that stand below it. -/
theorem linesTree_of_folded (hfold : ∀ n, folded'.contains n = (n == name || folded.contains n)) :
    ∀ {above : List String} (t : Tree MenuRecord), name ∉ above →
      linesTree folded' above t = (linesTree folded above t).filter fun l ↦ name ∉ l.above
  | above, .node r ts, h => by
    rw [linesTree, linesTree, hfold, List.filter_cons_of_pos (by simpa using h)]
    by_cases hfolded : folded.contains r.name = true
    · rw [hfolded, Bool.or_true, if_pos rfl, if_pos rfl, List.filter_nil]
    · rw [if_neg hfolded]
      by_cases hname : r.name = name
      · -- all that is below the node goes away
        rw [if_pos (by simp [hname]), List.filter_eq_nil_iff.2]
        intro l hl
        simpa using above_subset_of_mem_linesForest l hl (hname ▸ List.mem_cons_self)
      · rw [if_neg (by simpa [hname] using hfolded)]
        rw [linesForest_of_folded hfold ts (by simpa [Ne.symm hname] using h)]

theorem linesForest_of_folded (hfold : ∀ n, folded'.contains n = (n == name || folded.contains n)) :
    ∀ {above : List String} (ts : Forest MenuRecord), name ∉ above →
      linesForest folded' above ts = (linesForest folded above ts).filter fun l ↦ name ∉ l.above
  | _, [], _ => rfl
  | above, t :: ts, h => by
    rw [linesForest, linesForest, List.filter_append, linesTree_of_folded hfold t h,
      linesForest_of_folded hfold ts h]

end

mutual

/-- Unfolding takes no lines away. -/
theorem linesTree_sublist (hfolded : folded' ⊆ folded) :
    ∀ (above : List String) (t : Tree MenuRecord),
      (linesTree folded above t).Sublist (linesTree folded' above t)
  | above, .node r ts => by
    rw [linesTree, linesTree]
    refine List.Sublist.cons_cons _ ?_
    by_cases h : folded.contains r.name = true
    · rw [if_pos h]
      exact List.nil_sublist _
    · have h' : ¬folded'.contains r.name = true := by
        rw [List.contains_iff_mem] at h ⊢
        exact fun hmem ↦ h (hfolded hmem)
      rw [if_neg h, if_neg h']
      exact linesForest_sublist hfolded (r.name :: above) ts

theorem linesForest_sublist (hfolded : folded' ⊆ folded) :
    ∀ (above : List String) (ts : Forest MenuRecord),
      (linesForest folded above ts).Sublist (linesForest folded' above ts)
  | _, [] => List.Sublist.refl _
  | above, t :: ts => by
    rw [linesForest, linesForest]
    exact (linesTree_sublist hfolded above t).append (linesForest_sublist hfolded above ts)

end

/-! ### Groups with distinct names -/

/-- A group does not stand where lines of its name go away with a fold. -/
def Beside (k l : Line) : Prop :=
  l.node.isGroup = true → l.node.label.name ∉ k.above

/-- The groups of a forest are those of its first tree, and then the others. -/
theorem groupNames_cons (depth : Nat) (t : Tree MenuRecord) (ts : Forest MenuRecord) :
    groupNames (Tree.withDepthAll depth (t :: ts)) =
      groupNames (t.withDepth depth) ++ groupNames (Tree.withDepthAll depth ts) := by
  rw [Tree.withDepthAll, groupNames, List.filter_append, List.map_append]
  rfl

/-- A node with children is a group, which comes before those below it. -/
theorem groupNames_node (depth : Nat) (r : MenuRecord) {ts : Forest MenuRecord} (h : ts ≠ []) :
    groupNames ((Tree.node r ts).withDepth depth) =
      r.name :: groupNames (Tree.withDepthAll (depth + 1) ts) := by
  have hgroup : (Tree.node r ts).isGroup = true := by simp [Tree.isGroup, Tree.children, h]
  simp [Tree.withDepth, groupNames, hgroup, Tree.label]

/-- The names of the groups below a node are among those of the whole tree. -/
theorem groupNames_children_subset (depth : Nat) (r : MenuRecord) (ts : Forest MenuRecord) :
    groupNames (Tree.withDepthAll (depth + 1) ts) ⊆
      groupNames ((Tree.node r ts).withDepth depth) := by
  cases ts with
  | nil => exact List.nil_subset _
  | cons t ts =>
    rw [groupNames_node depth r (List.cons_ne_nil t ts)]
    exact List.subset_cons_self _ _

mutual

/-- Every group that has a line is a group of the tree. -/
theorem mem_groupNames_of_mem_linesTree (depth : Nat) :
    ∀ {above : List String} {t : Tree MenuRecord}, ∀ l ∈ linesTree folded above t,
      l.node.isGroup = true → l.node.label.name ∈ groupNames (t.withDepth depth)
  | _, .node r ts, l, hl, hgroup => by
    rw [linesTree, List.mem_cons] at hl
    rcases hl with rfl | hl
    · have hne : ts ≠ [] := by
        rintro rfl
        cases hgroup
      rw [groupNames_node depth r hne]
      exact List.mem_cons_self
    · split at hl
      · cases hl
      · exact groupNames_children_subset depth r ts
          (mem_groupNames_of_mem_linesForest (depth + 1) l hl hgroup)

theorem mem_groupNames_of_mem_linesForest (depth : Nat) :
    ∀ {above : List String} {ts : Forest MenuRecord}, ∀ l ∈ linesForest folded above ts,
      l.node.isGroup = true → l.node.label.name ∈ groupNames (Tree.withDepthAll depth ts)
  | _, [], _, hl, _ => by cases hl
  | _, t :: ts, l, hl, hgroup => by
    rw [groupNames_cons, List.mem_append]
    rw [linesForest, List.mem_append] at hl
    rcases hl with hl | hl
    · exact .inl (mem_groupNames_of_mem_linesTree depth l hl hgroup)
    · exact .inr (mem_groupNames_of_mem_linesForest depth l hl hgroup)

end

mutual

/-- A line of a tree stands below what the tree stands below, and below groups of the tree. -/
theorem mem_above_of_mem_linesTree (depth : Nat) :
    ∀ {above : List String} {t : Tree MenuRecord}, ∀ l ∈ linesTree folded above t,
      ∀ n ∈ l.above, n ∈ above ∨ n ∈ groupNames (t.withDepth depth)
  | above, .node r ts, l, hl, n, hn => by
    rw [linesTree, List.mem_cons] at hl
    rcases hl with rfl | hl
    · exact .inl hn
    · split at hl
      · cases hl
      · have hne : ts ≠ [] := by
          rintro rfl
          cases hl
        rw [groupNames_node depth r hne, List.mem_cons]
        rcases mem_above_of_mem_linesForest (depth + 1) l hl n hn with hn | hn
        · rcases List.mem_cons.1 hn with rfl | hn
          · exact .inr (.inl rfl)
          · exact .inl hn
        · exact .inr (.inr hn)

theorem mem_above_of_mem_linesForest (depth : Nat) :
    ∀ {above : List String} {ts : Forest MenuRecord}, ∀ l ∈ linesForest folded above ts,
      ∀ n ∈ l.above, n ∈ above ∨ n ∈ groupNames (Tree.withDepthAll depth ts)
  | _, [], _, hl, _, _ => by cases hl
  | _, t :: ts, l, hl, n, hn => by
    rw [groupNames_cons, List.mem_append]
    rw [linesForest, List.mem_append] at hl
    rcases hl with hl | hl
    · exact (mem_above_of_mem_linesTree depth l hl n hn).imp_right .inl
    · exact (mem_above_of_mem_linesForest depth l hl n hn).imp_right .inr

end

/-- What holds of the groups of a tree holds of those below its node. -/
theorem nodup_groupNames_children {r : MenuRecord} {ts : Forest MenuRecord}
    (hnodup : (groupNames ((Tree.node r ts).withDepth depth)).Nodup)
    (habove : ∀ n ∈ groupNames ((Tree.node r ts).withDepth depth), n ∉ above) :
    (groupNames (Tree.withDepthAll (depth + 1) ts)).Nodup ∧
      ∀ n ∈ groupNames (Tree.withDepthAll (depth + 1) ts), n ∉ r.name :: above := by
  cases ts with
  | nil => exact ⟨List.nodup_nil, nofun⟩
  | cons t ts =>
    rw [groupNames_node depth r (List.cons_ne_nil t ts), List.nodup_cons] at hnodup
    rw [groupNames_node depth r (List.cons_ne_nil t ts), List.forall_mem_cons] at habove
    refine ⟨hnodup.2, fun n hn ↦ ?_⟩
    rw [List.mem_cons, not_or]
    exact ⟨fun heq ↦ hnodup.1 (heq ▸ hn), habove.2 n hn⟩

mutual

/-- In a tree whose groups have distinct names, and other names than it stands below, no group
stands after a line, or is one, that goes away with a fold of its name. -/
theorem beside_linesTree (folded : List String) :
    ∀ {above : List String} {depth : Nat} (t : Tree MenuRecord),
      (groupNames (t.withDepth depth)).Nodup →
      (∀ n ∈ groupNames (t.withDepth depth), n ∉ above) →
      (linesTree folded above t).Pairwise Beside ∧ ∀ l ∈ linesTree folded above t, Beside l l
  | above, depth, .node r ts, hnodup, habove => by
    -- the node itself stands below nothing of the tree
    have hfirst (l : Line) (hl : l ∈ linesTree folded above (.node r ts)) :
        Beside ⟨above, .node r ts⟩ l := fun hgroup ↦
      habove _ (mem_groupNames_of_mem_linesTree depth l hl hgroup)
    obtain ⟨hnodup', habove'⟩ := nodup_groupNames_children hnodup habove
    obtain ⟨hpair, hself⟩ := beside_linesForest folded ts hnodup' habove'
    rw [linesTree] at hfirst ⊢
    rw [List.forall_mem_cons] at hfirst
    rw [List.pairwise_cons, List.forall_mem_cons]
    refine ⟨⟨hfirst.2, ?_⟩, hfirst.1, ?_⟩ <;> split
    · exact List.Pairwise.nil
    · exact hpair
    · exact nofun
    · exact hself

theorem beside_linesForest (folded : List String) :
    ∀ {above : List String} {depth : Nat} (ts : Forest MenuRecord),
      (groupNames (Tree.withDepthAll depth ts)).Nodup →
      (∀ n ∈ groupNames (Tree.withDepthAll depth ts), n ∉ above) →
      (linesForest folded above ts).Pairwise Beside ∧ ∀ l ∈ linesForest folded above ts, Beside l l
  | _, _, [], _, _ => ⟨List.Pairwise.nil, nofun⟩
  | above, depth, t :: ts, hnodup, habove => by
    rw [groupNames_cons, List.nodup_append] at hnodup
    rw [groupNames_cons, List.forall_mem_append] at habove
    obtain ⟨htree, hforest, hdisjoint⟩ := hnodup
    obtain ⟨hpairTree, hselfTree⟩ := beside_linesTree folded t htree habove.1
    obtain ⟨hpairForest, hselfForest⟩ := beside_linesForest folded ts hforest habove.2
    rw [linesForest, List.pairwise_append, List.forall_mem_append]
    refine ⟨⟨hpairTree, hpairForest, fun k hk l hl hgroup hmem ↦ ?_⟩, hselfTree, hselfForest⟩
    have hl := mem_groupNames_of_mem_linesForest depth l hl hgroup
    rcases mem_above_of_mem_linesTree depth k hk _ hmem with h | h
    · exact habove.2 _ hl h
    · exact hdisjoint _ h _ hl rfl

end

/-- Up to a group there is nothing that goes away with a fold of its name. -/
theorem DistinctGroups.not_mem_above (h : DistinctGroups s.menu) {l : Line}
    (hl : s.lines[s.cursor]? = some l) (hgroup : l.node.isGroup = true) :
    ∀ k ∈ s.lines.take (s.cursor + 1), l.node.label.name ∉ k.above := by
  have htop : ∀ n ∈ groupNames s.menu.withDepth, n ∉ ([] : List String) :=
    fun _ _ ↦ List.not_mem_nil
  obtain ⟨hpair, hself⟩ := beside_linesForest s.folded s.menu h htop
  obtain ⟨hlt, rfl⟩ := List.getElem?_eq_some_iff.1 hl
  intro k hk
  obtain ⟨j, hj, rfl⟩ := List.mem_take_iff_getElem.1 hk
  rcases Nat.lt_or_eq_of_le (Nat.le_of_lt_succ (Nat.lt_min.1 hj).1) with hbefore | rfl
  · exact List.pairwise_iff_getElem.1 hpair j s.cursor (Nat.lt_trans hbefore hlt) hlt hbefore hgroup
  · exact hself _ (List.getElem_mem hlt) hgroup

/-! ### The cursor -/

/-- Something that is done to a sidebar. -/
inductive Op where
  | moveCursor (delta : Int)
  | toggleExpanded
  | selectView (view : Resource)
  | toggleCollapsed
  | replaceMenu (menu : Forest MenuRecord)

/-- A sidebar after something is done to it. What cannot be done leaves it as it is. -/
def step (s : Sidebar) : Op → Sidebar
  | .moveCursor delta => s.moveCursor delta
  | .toggleExpanded => s.toggleExpanded?.getD s
  | .selectView view => (s.selectView? view).getD s
  | .toggleCollapsed => s.toggleCollapsed
  | .replaceMenu menu => s.replaceMenu menu

/-- A sidebar after one thing is done to it after the other. -/
def after (s : Sidebar) (ops : List Op) : Sidebar :=
  ops.foldl step s

/-- The cursor is on a line, or on the first one if nothing is visible. -/
def CursorInRange (s : Sidebar) : Prop :=
  s.cursor < s.visible.length ∨ s.visible = [] ∧ s.cursor = 0

/-- How many of the lines up to the cursor stand below a name. -/
def linesTaken (s : Sidebar) (name : String) : Nat :=
  (s.lines.take (s.cursor + 1)).countP fun l ↦ name ∈ l.above

/-- How many of the lines after the cursor do not stand below a name. -/
def linesLeft (s : Sidebar) (name : String) : Nat :=
  (s.lines.drop (s.cursor + 1)).countP fun l ↦ name ∉ l.above

/-- The cursor is on an unfolded group, and folding its name takes away more lines up to the cursor
than it leaves after it. -/
def LosesCursor (s : Sidebar) : Prop :=
  ∃ l, s.lines[s.cursor]? = some l ∧ l.node.isGroup = true ∧ l.node.label.name ∉ s.folded ∧
    s.linesLeft l.node.label.name < s.linesTaken l.node.label.name

/-- Whether something puts the cursor on a line, wherever it was. -/
def PlacesCursor (s : Sidebar) : Op → Prop
  | .moveCursor _ | .replaceMenu _ => True
  | .selectView view => (s.selectView? view).isSome
  | .toggleExpanded | .toggleCollapsed => False

/-- The cursor is on a line exactly if it is less than the number of lines, or zero if there are
none. -/
theorem cursorInRange_iff : s.CursorInRange ↔ s.cursor < max s.lines.length 1 := by
  rw [CursorInRange, ← List.length_eq_zero_iff, length_visible]
  omega

/-- An element stays within a list that is filtered exactly if no more go away up to it than are
left after it. -/
theorem lt_length_filter_iff {α : Type} {p : α → Bool} {xs : List α} {n : Nat}
    (hn : n < xs.length) :
    n < (xs.filter p).length ↔
      (xs.take (n + 1)).countP (fun x ↦ !p x) ≤ (xs.drop (n + 1)).countP p := by
  have hsplit : (xs.filter p).length =
      (xs.take (n + 1)).countP p + (xs.drop (n + 1)).countP p := by
    rw [← List.countP_eq_length_filter, ← List.countP_append, List.take_append_drop]
  have htake : (xs.take (n + 1)).length =
      (xs.take (n + 1)).countP p + (xs.take (n + 1)).countP (fun x ↦ !p x) := by
    rw [List.length_eq_countP_add_countP p]
    simp
  rw [List.length_take] at htake
  omega

/-! ### What is done to a sidebar -/

theorem mem_insertName {n : String} {names : List String} :
    n ∈ insertName name names ↔ n = name ∨ n ∈ names := by
  induction names with
  | nil => simp [insertName]
  | cons m names ih =>
    rw [insertName]
    split
    · rw [List.mem_cons]
    · rw [List.mem_cons, ih, List.mem_cons]
      tauto

/-- The selected entry is that of the line which the cursor is on. -/
theorem selected?_eq (s : Sidebar) :
    s.selected? =
      s.lines[s.cursor]?.map fun l ↦ entryOf s.folded l.above.length l.node := by
  rw [selected?, visible_eq, List.getElem?_map]

/-- On a line that is no group nothing can be folded. -/
theorem step_toggleExpanded_of_not_isGroup
    (h : ∀ l, s.lines[s.cursor]? = some l → l.node.isGroup = false) :
    s.step .toggleExpanded = s := by
  unfold step toggleExpanded?
  rw [selected?_eq]
  cases hl : s.lines[s.cursor]? with
  | none => rfl
  | some l => simp [entryOf, h l hl]

/-- On a group, its name is folded or unfolded. -/
theorem step_toggleExpanded {l : Line} (hl : s.lines[s.cursor]? = some l)
    (hgroup : l.node.isGroup = true) :
    s.step .toggleExpanded = { s with folded := toggleFolded s.folded l.node.label.name } := by
  simp [step, toggleExpanded?, selected?_eq, hl, entryOf, hgroup]

/-- Folding a name takes away the lines below it. -/
theorem lines_fold (h : name ∉ s.folded) :
    { s with folded := toggleFolded s.folded name }.lines =
      s.lines.filter fun l ↦ name ∉ l.above := by
  have hfold (n : String) :
      (toggleFolded s.folded name).contains n = (n == name || s.folded.contains n) := by
    rw [toggleFolded, if_neg (by simpa using h), Bool.eq_iff_iff]
    simp [mem_insertName]
  exact linesForest_of_folded hfold s.menu List.not_mem_nil

/-- Unfolding a name leaves all lines. -/
theorem length_lines_unfold (h : name ∈ s.folded) :
    s.lines.length ≤ { s with folded := toggleFolded s.folded name }.lines.length := by
  refine (linesForest_sublist ?_ [] s.menu).length_le
  rw [toggleFolded, if_pos (by simpa using h)]
  exact List.erase_subset

/-- A fold keeps the cursor on a line unless it takes away too many up to it. -/
theorem CursorInRange.toggleExpanded (h : s.CursorInRange) :
    (s.step .toggleExpanded).CursorInRange ↔ ¬s.LosesCursor := by
  by_cases hgroup : ∃ l, s.lines[s.cursor]? = some l ∧ l.node.isGroup = true
  · obtain ⟨l, hl, hgroup⟩ := hgroup
    have hlt : s.cursor < s.lines.length := (List.getElem?_eq_some_iff.1 hl).1
    have hloses : s.LosesCursor ↔ l.node.label.name ∉ s.folded ∧
        s.linesLeft l.node.label.name < s.linesTaken l.node.label.name := by
      constructor
      · rintro ⟨k, hk, -, hfolded, hcount⟩
        obtain rfl : k = l := Option.some.inj (hk.symm.trans hl)
        exact ⟨hfolded, hcount⟩
      · rintro ⟨hfolded, hcount⟩
        exact ⟨l, hl, hgroup, hfolded, hcount⟩
    -- the first line of a menu does not go away
    have hfirst :
        0 < { s with folded := toggleFolded s.folded l.node.label.name }.lines.length := by
      rw [List.length_pos_iff, Ne, lines_eq_nil_iff]
      exact fun hnil ↦ List.ne_nil_of_length_pos (Nat.zero_lt_of_lt hlt) (lines_eq_nil_iff.2 hnil)
    rw [step_toggleExpanded hl hgroup, hloses, cursorInRange_iff]
    show s.cursor < max _ 1 ↔ _
    rw [Nat.max_eq_left hfirst]
    by_cases hfolded : l.node.label.name ∈ s.folded
    · exact iff_of_true (Nat.lt_of_lt_of_le hlt (length_lines_unfold hfolded)) fun h ↦ h.1 hfolded
    · rw [lines_fold hfolded, lt_length_filter_iff hlt, and_iff_right hfolded, Nat.not_lt]
      simp only [linesTaken, linesLeft, decide_not, Bool.not_not]
  · have hleaf (l : Line) (hl : s.lines[s.cursor]? = some l) : l.node.isGroup = false := by
      rw [← Bool.not_eq_true]
      exact fun h ↦ hgroup ⟨l, hl, h⟩
    rw [step_toggleExpanded_of_not_isGroup hleaf]
    refine iff_of_true h ?_
    rintro ⟨l, hl, h, -⟩
    exact hgroup ⟨l, hl, h⟩

/-- A fold can lose the cursor only from a line. -/
theorem LosesCursor.cursorInRange (h : s.LosesCursor) : s.CursorInRange := by
  obtain ⟨l, hl, -⟩ := h
  have hlt := (List.getElem?_eq_some_iff.1 hl).1
  rw [cursorInRange_iff]
  omega

/-- A cursor that is moved is moved to a line. -/
theorem cursorInRange_moveCursor (s : Sidebar) (delta : Int) :
    (s.moveCursor delta).CursorInRange := by
  rw [cursorInRange_iff]
  show min (s.cursor + delta).toNat (s.visible.length - 1) < max s.lines.length 1
  rw [length_visible]
  omega

theorem cursorInRange_replaceMenu (s : Sidebar) (menu : Forest MenuRecord) :
    (s.replaceMenu menu).CursorInRange := by
  rw [cursorInRange_iff]
  exact Nat.lt_of_lt_of_le Nat.zero_lt_one (Nat.le_max_right _ _)

/-- The line that leads to a view is one of the lines. -/
theorem cursorInRange_of_selectView? {view : Resource} {s' : Sidebar}
    (h : s.selectView? view = some s') : s'.CursorInRange := by
  obtain ⟨i, hi, rfl⟩ := Option.map_eq_some_iff.1 h
  exact .inl (List.findIdx?_eq_some_iff_findIdx_eq.1 hi).1

/-- What is done to a sidebar keeps the cursor on a line, except for a fold that loses it. -/
theorem CursorInRange.step (h : s.CursorInRange) (op : Op) :
    (s.step op).CursorInRange ↔ ¬(op = .toggleExpanded ∧ s.LosesCursor) := by
  cases op with
  | toggleExpanded => rw [h.toggleExpanded, and_iff_right rfl]
  | moveCursor delta => exact iff_of_true (cursorInRange_moveCursor s delta) (by simp)
  | replaceMenu menu => exact iff_of_true (cursorInRange_replaceMenu s menu) (by simp)
  | toggleCollapsed => exact iff_of_true h (by simp)
  | selectView view =>
    refine iff_of_true ?_ (by simp)
    show ((s.selectView? view).getD s).CursorInRange
    cases hview : s.selectView? view with
    | none => exact h
    | some s' => exact cursorInRange_of_selectView? hview

/-- A cursor that is on no line comes back to one exactly if it is put there. -/
theorem cursorInRange_step_iff_of_not (h : ¬s.CursorInRange) (op : Op) :
    (s.step op).CursorInRange ↔ s.PlacesCursor op := by
  cases op with
  | moveCursor delta => exact iff_of_true (cursorInRange_moveCursor s delta) trivial
  | replaceMenu menu => exact iff_of_true (cursorInRange_replaceMenu s menu) trivial
  | toggleCollapsed => exact iff_of_false h id
  | toggleExpanded =>
    have hleaf (l : Line) (hl : s.lines[s.cursor]? = some l) : l.node.isGroup = false := by
      rw [cursorInRange_iff] at h
      have hlt := (List.getElem?_eq_some_iff.1 hl).1
      omega
    rw [step_toggleExpanded_of_not_isGroup hleaf]
    exact iff_of_false h id
  | selectView view =>
    show ((s.selectView? view).getD s).CursorInRange ↔ (s.selectView? view).isSome
    cases hview : s.selectView? view with
    | none => exact iff_of_false h nofun
    | some s' => exact iff_of_true (cursorInRange_of_selectView? hview) rfl

/-! ### Along everything that is done -/

theorem after_concat (s : Sidebar) (ops : List Op) (op : Op) :
    s.after (ops ++ [op]) = (s.after ops).step op := by
  rw [after, List.foldl_append]
  rfl

/-- Whenever a fold has lost the cursor, it has been put on a line since. -/
def BroughtBack (s : Sidebar) (ops : List Op) : Prop :=
  ∀ before later, ops = before ++ .toggleExpanded :: later → (s.after before).LosesCursor →
    ∃ between op rest, later = between ++ op :: rest ∧
      (s.after (before ++ .toggleExpanded :: between)).PlacesCursor op

/-- One more thing leaves nothing lost if it loses nothing itself, and puts the cursor on a line if
that is left to do. -/
theorem broughtBack_concat_iff {ops : List Op} {op : Op} :
    s.BroughtBack (ops ++ [op]) ↔
      ¬(op = .toggleExpanded ∧ (s.after ops).LosesCursor) ∧
        (s.BroughtBack ops ∨ (s.after ops).PlacesCursor op) := by
  constructor
  · refine fun hback ↦ ⟨?_, or_iff_not_imp_left.2 fun hlost ↦ ?_⟩
    · rintro ⟨rfl, hloses⟩
      obtain ⟨between, x, rest, hnil, -⟩ := hback ops [] rfl hloses
      exact absurd hnil (by simp)
    · -- the fold that lost the cursor is among the earlier ones, and nothing of them put it back
      simp only [BroughtBack, not_forall] at hlost
      obtain ⟨before, later, rfl, hloses, hnone⟩ := hlost
      obtain ⟨between, x, rest, hlater, hplaces⟩ := hback before (later ++ [op]) (by simp) hloses
      rcases List.eq_nil_or_concat rest with rfl | ⟨rest, y, rfl⟩
      · obtain ⟨rfl, hx⟩ := List.append_inj' hlater rfl
        obtain rfl : op = x := by simpa using hx
        exact hplaces
      · rw [List.concat_eq_append, ← List.cons_append, ← List.append_assoc] at hlater
        obtain ⟨rfl, -⟩ := List.append_inj' hlater rfl
        exact absurd ⟨between, x, rest, rfl, hplaces⟩ hnone
  · rintro ⟨hkept, hback⟩ before later hops hloses
    rcases List.eq_nil_or_concat later with rfl | ⟨later, x, rfl⟩
    · obtain ⟨rfl, hx⟩ := List.append_inj' hops rfl
      exact absurd ⟨by simpa using hx, hloses⟩ hkept
    · rw [List.concat_eq_append, ← List.cons_append, ← List.append_assoc] at hops
      obtain ⟨rfl, hx⟩ := List.append_inj' hops rfl
      obtain rfl : op = x := by simpa using hx
      rcases hback with hback | hplaces
      · obtain ⟨between, y, rest, rfl, hy⟩ := hback before later rfl hloses
        exact ⟨between, y, rest ++ [op], by simp, hy⟩
      · exact ⟨later, op, [], by simp, hplaces⟩

theorem cursorInRange_after (hs : s.CursorInRange) (ops : List Op) :
    (s.after ops).CursorInRange ↔ s.BroughtBack ops := by
  induction ops using List.reverseRecOn with
  | nil => exact iff_of_true hs fun before later h ↦ absurd h (by simp)
  | append_singleton ops op ih =>
    rw [after_concat, broughtBack_concat_iff, ← ih]
    by_cases hin : (s.after ops).CursorInRange
    · rw [hin.step op]
      exact ⟨fun h ↦ ⟨h, .inl hin⟩, And.left⟩
    · have hkept : ¬(op = .toggleExpanded ∧ (s.after ops).LosesCursor) :=
        fun h ↦ hin h.2.cursorInRange
      rw [cursorInRange_step_iff_of_not hin op, and_iff_right hkept, or_iff_right hin]

/-- Where groups have distinct names no fold loses the cursor. -/
theorem DistinctGroups.not_losesCursor (h : DistinctGroups s.menu) : ¬s.LosesCursor := by
  rintro ⟨l, hl, hgroup, -, hcount⟩
  have hnone : s.linesTaken l.node.label.name = 0 := by
    rw [linesTaken, List.countP_eq_zero]
    exact fun k hk ↦ by simpa using h.not_mem_above hl hgroup k hk
  rw [hnone] at hcount
  exact absurd hcount (Nat.not_lt_zero _)

/-- Only another menu that is shown changes the menu. -/
theorem menu_step (s : Sidebar) (op : Op) :
    (s.step op).menu =
      match op with
      | .replaceMenu menu => menu
      | _ => s.menu := by
  cases op with
  | moveCursor => rfl
  | toggleCollapsed => rfl
  | replaceMenu => rfl
  | toggleExpanded =>
    show (s.toggleExpanded?.getD s).menu = s.menu
    unfold toggleExpanded?
    split
    · split <;> rfl
    · rfl
  | selectView view =>
    show ((s.selectView? view).getD s).menu = s.menu
    unfold selectView?
    cases s.visible.findIdx? fun e ↦ e.view? == some view <;> rfl

theorem distinctGroups_after (hs : DistinctGroups s.menu) {ops : List Op}
    (hops : ∀ menu, .replaceMenu menu ∈ ops → DistinctGroups menu) :
    DistinctGroups (s.after ops).menu := by
  induction ops generalizing s with
  | nil => exact hs
  | cons op ops ih =>
    refine ih ?_ fun menu hmenu ↦ hops menu (List.mem_cons_of_mem _ hmenu)
    rw [menu_step]
    cases op with
    | replaceMenu menu => exact hops menu List.mem_cons_self
    | _ => exact hs

/-- **The cursor is on a line unless a fold has lost it and nothing has put it back.** Whatever menu
a sidebar starts with and whatever is done to it:
1. the cursor is on a line, or on the first one if nothing is visible, exactly if it has been put on
   a line since the latest fold that took away more lines up to it than it left after it;
2. so it always is in menus whose groups have distinct names;
3. when it is, and the menu is not empty, there is a selected line. -/
theorem cursorInRange_after_iff (menu : Forest MenuRecord) (collapsed : Bool) (ops : List Op) :
    let s := (ofMenu menu collapsed).after ops
    ((s.cursor < s.visible.length ∨ s.visible = [] ∧ s.cursor = 0) ↔
      (ofMenu menu collapsed).BroughtBack ops) ∧
    (DistinctGroups menu → (∀ m, .replaceMenu m ∈ ops → DistinctGroups m) →
      s.cursor < s.visible.length ∨ s.visible = [] ∧ s.cursor = 0) ∧
    ((s.cursor < s.visible.length ∨ s.visible = [] ∧ s.cursor = 0) → s.menu ≠ [] →
      s.selected?.isSome) := by
  intro s
  have hiff := cursorInRange_after (cursorInRange_replaceMenu (ofMenu menu collapsed) menu) ops
  refine ⟨hiff, fun hmenu hops ↦ hiff.2 fun before later hsplit hloses ↦ ?_, fun hin hmenu ↦ ?_⟩
  · have hbefore : DistinctGroups ((ofMenu menu collapsed).after before).menu :=
      distinctGroups_after hmenu fun m hm ↦ hops m (by rw [hsplit]; exact List.mem_append_left _ hm)
    exact absurd hloses hbefore.not_losesCursor
  · rcases hin with hlt | ⟨hnil, -⟩
    · rw [selected?, List.getElem?_eq_getElem hlt]
      rfl
    · rw [visible_eq, List.map_eq_nil_iff, lines_eq_nil_iff] at hnil
      exact absurd hnil hmenu

/-- A menu in which two groups have the same name. -/
def sampleReports : List MenuRecord :=
  [Sample.menuRecord 1 "reports" "" none 1, Sample.menuRecord 2 "sales" "/sales" (some 1) 1,
    Sample.menuRecord 3 "stock" "/stock" (some 1) 2, Sample.menuRecord 4 "reports" "" none 2,
    Sample.menuRecord 5 "staff" "/staff" (some 4) 1]

/-- The cursor is put on the second of two groups of one name, and the group is folded: the lines of
the first one go away too, and the cursor is beyond the last line. -/
theorem folding_loses_cursor :
    let s := (ofMenu (Menu.hierarchy sampleReports) false).after [.moveCursor 3, .toggleExpanded]
    s.cursor = 3 ∧ s.visible.length = 2 ∧ s.menu.length = 2 ∧ s.selected? = none := by
  refine ⟨?_, ?_, ?_, ?_⟩ <;> cbv

end PitchDesk.Sidebar
