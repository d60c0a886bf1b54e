import Mathlib.Data.List.Sort
import PitchDesk.Proofs.Sidebar
import PitchDesk.Proofs.Sidebar.Visible

/-!
# Folding a group and unfolding it again

In a menu whose names are distinct a fold is local. Folding or unfolding the group under the cursor
takes away or brings back the lines right after it that show what stands below the group, each as
its own groups are folded; of the other lines none changes, and of the line of the group only
whether it is expanded, `toggleExpanded_of_distinctNames`.

That rests on two things. The lines of a menu are those of its places, and what stands below a
place comes right after it, `DistinctNames.exists_visible_eq`. And a place that is `Apart` from a
name, since neither it nor a node above it has that name, is shown as before,
`shownLines_toggleFolded`.

The folded names stand in strict order whatever is done to a sidebar, `pairwise_folded_after`. That
is why a second fold brings back the very same sidebar, and not only one that shows the same lines.

Distinct names are asked of all records of the menu and not of its groups alone: the names of
leaves are never folded, but a leaf that has the name of a group is shown as expanded or not as
that group is. For the cursor alone, distinct groups are enough (`cursorInRange_after_iff`).
-/

namespace PitchDesk.Sidebar

variable {s : Sidebar} {menu : Forest MenuRecord} {folded names : List String} {name : String}
  {depth : Nat} {p : Place MenuRecord}

/-! ### The folded names -/

theorem insertName_eq (name : String) (names : List String) :
    insertName name names = names.orderedInsert (· < ·) name := by
  induction names with
  | nil => rfl
  | cons n names ih =>
    rw [insertName, List.orderedInsert_cons, ih]

theorem pairwise_insertName (h : names.Pairwise (· < ·)) (hname : name ∉ names) :
    (insertName name names).Pairwise (· < ·) := by
  induction names with
  | nil => exact List.pairwise_singleton _ _
  | cons n names ih =>
    obtain ⟨hn, hnames⟩ := List.pairwise_cons.1 h
    obtain ⟨hne, hnot⟩ := List.ne_and_not_mem_of_not_mem_cons hname
    rw [insertName]
    split
    · rename_i hlt
      refine List.pairwise_cons.2 ⟨List.forall_mem_cons.2 ⟨hlt, fun m hm ↦ ?_⟩, h⟩
      exact String.lt_trans hlt (hn m hm)
    · rename_i hlt
      have hgt : n < name := Std.lt_of_le_of_ne (String.not_lt.1 hlt) hne.symm
      refine List.pairwise_cons.2 ⟨fun m hm ↦ ?_, ih hnames hnot⟩
      rcases mem_insertName.1 hm with rfl | hm
      · exact hgt
      · exact hn m hm

theorem nodup_of_pairwise_lt (h : names.Pairwise (· < ·)) : names.Nodup := by
  refine h.imp fun {a b} hlt heq ↦ ?_
  rw [heq] at hlt
  exact String.lt_irrefl b hlt

/-- Folding or unfolding a name leaves the names in order. -/
theorem pairwise_toggleFolded (h : folded.Pairwise (· < ·)) (name : String) :
    (toggleFolded folded name).Pairwise (· < ·) := by
  rw [toggleFolded]
  split
  · exact h.sublist List.erase_sublist
  · rename_i hname
    exact pairwise_insertName h (by simpa using hname)

/-- No other name is folded or unfolded. -/
theorem mem_toggleFolded_of_ne {n : String} (hne : n ≠ name) :
    n ∈ toggleFolded folded name ↔ n ∈ folded := by
  rw [toggleFolded]
  split
  · exact List.mem_erase_of_ne hne
  · rw [mem_insertName, or_iff_right hne]

/-- The name itself is folded exactly if it was not. -/
theorem mem_toggleFolded_self (h : folded.Pairwise (· < ·)) :
    name ∈ toggleFolded folded name ↔ name ∉ folded := by
  rw [toggleFolded]
  split
  · rename_i hname
    have hmem : name ∈ folded := List.contains_iff_mem.1 hname
    exact iff_of_false (nodup_of_pairwise_lt h).not_mem_erase fun hnot ↦ hnot hmem
  · rename_i hname
    have hnot : name ∉ folded := fun hmem ↦ hname (List.contains_iff_mem.2 hmem)
    exact iff_of_true (mem_insertName.2 (.inl rfl)) hnot

/-- The second time brings back the same list of names. -/
theorem toggleFolded_toggleFolded (h : folded.Pairwise (· < ·)) :
    toggleFolded (toggleFolded folded name) name = folded := by
  have : Std.Antisymm fun a b : String ↦ a < b :=
    ⟨fun a b hab hba ↦ absurd hba (String.lt_asymm hab)⟩
  by_cases hname : name ∈ folded
  · have hnot : name ∉ toggleFolded folded name := fun hmem ↦ (mem_toggleFolded_self h).1 hmem hname
    rw [toggleFolded, if_neg (by simpa using hnot), toggleFolded, if_pos (by simpa using hname),
      insertName_eq, List.orderedInsert_erase name folded hname h]
  · have hmem : name ∈ toggleFolded folded name := (mem_toggleFolded_self h).2 hname
    rw [toggleFolded, if_pos (by simpa using hmem), toggleFolded, if_neg (by simpa using hname),
      insertName_eq, List.erase_orderedInsert_of_notMem hname]

/-- What is done to a sidebar keeps the folded names in order. -/
theorem pairwise_folded_step (h : s.folded.Pairwise (· < ·)) (op : Op) :
    (s.step op).folded.Pairwise (· < ·) := by
  cases op with
  | moveCursor => exact h
  | toggleCollapsed => exact h
  | replaceMenu => exact List.Pairwise.nil
  | selectView view =>
    show ((s.selectView? view).getD s).folded.Pairwise (· < ·)
    unfold selectView?
    cases s.visible.findIdx? fun e ↦ e.view? == some view <;> exact h
  | toggleExpanded =>
    show (s.toggleExpanded?.getD s).folded.Pairwise (· < ·)
    unfold toggleExpanded?
    split
    · split
      · exact pairwise_toggleFolded h _
      · exact h
    · exact h

/-- Whatever is done to a sidebar, its folded names stand in order. -/
theorem pairwise_folded_after (menu : Forest MenuRecord) (collapsed : Bool) (ops : List Op) :
    ((ofMenu menu collapsed).after ops).folded.Pairwise (· < ·) := by
  induction ops using List.reverseRecOn with
  | nil => exact List.Pairwise.nil
  | append_singleton ops op ih =>
    rw [after_concat]
    exact pairwise_folded_step ih op

/-! ### Lines that do not change -/

/-- A place whose own name is another one, and that stands below no node of that name. -/
def Apart (name : String) (q : Place MenuRecord) : Prop :=
  name ∉ (q.node.label :: q.above).map (·.name)

/-- A place is apart from a name if its node has another one, and so have all above it. -/
theorem apart_iff {q : Place MenuRecord} :
    Apart name q ↔ name ≠ q.node.label.name ∧ name ∉ q.above.map (·.name) := by
  rw [Apart, List.map_cons, List.mem_cons, not_or]

/-- What is apart from the name is shown as before. -/
theorem shownLines_toggleFolded {ps : List (Place MenuRecord)} (h : ∀ q ∈ ps, Apart name q) :
    shownLines (toggleFolded folded name) depth ps = shownLines folded depth ps := by
  have hsame {q : Place MenuRecord} (hq : q ∈ ps) {r : MenuRecord}
      (hr : r ∈ q.node.label :: q.above) : r.name ∈ toggleFolded folded name ↔ r.name ∈ folded := by
    refine mem_toggleFolded_of_ne ?_
    rintro rfl
    exact h q hq (List.mem_map_of_mem hr)
  have hshown : ps.filter (fun q ↦ decide (Shown (toggleFolded folded name) q)) =
      ps.filter fun q ↦ decide (Shown folded q) := by
    refine List.filter_congr fun q hq ↦ decide_eq_decide.2 ?_
    refine forall₂_congr fun r hr ↦ not_congr ?_
    exact hsame hq (List.mem_cons_of_mem _ hr)
  rw [shownLines, hshown]
  refine List.map_congr_left fun q hq ↦ ?_
  have hcontains : (toggleFolded folded name).contains q.node.label.name =
      folded.contains q.node.label.name := by
    rw [Bool.eq_iff_iff, List.contains_iff_mem, List.contains_iff_mem]
    exact hsame (List.mem_filter.1 hq).1 List.mem_cons_self
  rw [entryOf, entryOf, hcontains]

/-! ### The block of a group -/

/-- No two records of a menu have a name in common. -/
def DistinctNames (menu : Forest MenuRecord) : Prop :=
  (menu.flatten.map (·.name)).Nodup

instance : DecidablePred DistinctNames :=
  fun menu ↦ inferInstanceAs (Decidable (menu.flatten.map (·.name)).Nodup)

namespace DistinctNames

/-- In a menu of distinct names, places are told apart by the names of their nodes. -/
theorem nodup_places (h : DistinctNames menu) :
    (menu.places.map (·.node.label.name)).Nodup := by
  have hlabels : menu.places.map (·.node.label) = menu.flatten := Tree.label_placesAll menu
  rw [DistinctNames, ← hlabels, List.map_map] at h
  exact h

/-- No two visible lines are the same. -/
theorem nodup_visible (h : DistinctNames s.menu) : s.visible.Nodup := by
  have hcodes : (s.visible.map (·.code)).Sublist (s.menu.places.map (·.node.label.name)) := by
    rw [visible, visibleForest_eq_shownLines, shownLines, List.map_map]
    exact List.filter_sublist.map _
  exact List.Nodup.of_map _ (h.nodup_places.sublist hcodes)

/-- The lines around a shown place: those of other places of the menu, and in between, unless it is
folded, those of what stands below it. All other places are apart from its name. -/
theorem exists_visible_eq (h : DistinctNames menu) (hp : p ∈ menu.places) :
    ∃ before after : List (Place MenuRecord),
      (∀ q ∈ before, Apart p.node.label.name q) ∧
      (∀ q ∈ p.node.children.places, Apart p.node.label.name q) ∧
      (∀ q ∈ after, Apart p.node.label.name q) ∧
      p.node.label.name ∉ p.above.map (·.name) ∧
      ∀ folded, Shown folded p →
        visibleForest folded 0 menu =
          shownLines folded 0 before ++ entryOf folded p.above.length p.node ::
            ((if p.node.label.name ∈ folded then []
              else shownLines folded (p.above.length + 1) p.node.children.places) ++
            shownLines folded 0 after) := by
  obtain ⟨before, after, hsplit, hnot⟩ := Tree.exists_placesAll_eq h hp
  -- the names of the other places, the block among them, are those of the menu without this one
  have hblock : ((Tree.placesAll p.node.children).map p.within).map (·.node.label.name) =
      p.node.children.flatten.map (·.name) := by
    rw [Forest.flatten, ← Tree.label_placesAll, List.map_map, List.map_map]
    rfl
  have hfresh : p.node.label.name ∉ before.map (·.node.label.name) ++
      (p.node.children.flatten.map (·.name) ++ after.map (·.node.label.name)) := by
    have hnames := h.nodup_places
    rw [Forest.places, hsplit, List.append_assoc, List.cons_append, List.map_append, List.map_cons,
      List.nodup_middle, List.nodup_cons, List.map_append, hblock] at hnames
    exact hnames.1
  rw [List.mem_append, List.mem_append, not_or, not_or] at hfresh
  obtain ⟨hbefore, hbelow, hafter⟩ := hfresh
  refine ⟨before, after, fun q hq ↦ ?_, fun q hq ↦ ?_, fun q hq ↦ ?_, ?_, fun folded hshown ↦ ?_⟩
  · have hne : p.node.label.name ≠ q.node.label.name :=
      fun heq ↦ hbefore (heq ▸ List.mem_map_of_mem hq)
    exact apart_iff.2 ⟨hne, hnot q (by simp [hq])⟩
  · have hsubset : q.node.label :: q.above ⊆ p.node.children.flatten :=
      List.cons_subset.2 ⟨Tree.label_mem_flattenAll hq, Tree.above_subset_flattenAll q hq⟩
    exact fun hmem ↦ hbelow (List.map_subset _ hsubset hmem)
  · have hne : p.node.label.name ≠ q.node.label.name :=
      fun heq ↦ hafter (heq ▸ List.mem_map_of_mem hq)
    exact apart_iff.2 ⟨hne, hnot q (by simp [hq])⟩
  · exact hnot p (by simp)
  · rw [visibleForest_eq_shownLines, hsplit, shownLines_append, shownLines_append,
      shownLines_cons hshown, shownLines_map_within hshown, List.append_assoc, List.cons_append,
      Nat.zero_add]
    rfl

end DistinctNames

/-! ### The line under the cursor -/

/-- The lines of what stands below a place, each as its own groups are folded. -/
def block (s : Sidebar) (p : Place MenuRecord) : List Entry :=
  shownLines s.folded (p.above.length + 1) p.node.children.places

variable {e : Entry}

/-- The selected line is that of a shown place. -/
theorem exists_place_of_selected? (he : s.selected? = some e) :
    ∃ p ∈ s.menu.places, Shown s.folded p ∧ e = entryOf s.folded p.above.length p.node := by
  have hmem : e ∈ s.visible := List.mem_of_getElem? he
  rw [visible, visibleForest_eq_shownLines, shownLines, List.mem_map] at hmem
  obtain ⟨p, hp, rfl⟩ := hmem
  obtain ⟨hp, hshown⟩ := List.mem_filter.1 hp
  exact ⟨p, hp, of_decide_eq_true hshown, by rw [Nat.zero_add]⟩

/-- Folding or unfolding a name changes the line that has it, but only whether that is expanded. -/
theorem entryOf_toggleFolded (h : folded.Pairwise (· < ·)) (depth : Nat) (t : Tree MenuRecord) :
    entryOf (toggleFolded folded t.label.name) depth t =
      { entryOf folded depth t with expanded := !(entryOf folded depth t).expanded } := by
  have hcontains : (toggleFolded folded t.label.name).contains t.label.name =
      !folded.contains t.label.name := by
    rw [Bool.eq_iff_iff, List.contains_iff_mem, mem_toggleFolded_self h]
    simp
  rw [entryOf, hcontains]
  rfl

/-- A sidebar with one more name folded or unfolded. -/
def toggle (s : Sidebar) (name : String) : Sidebar :=
  { s with folded := toggleFolded s.folded name }

theorem toggle_toggle (h : s.folded.Pairwise (· < ·)) (name : String) :
    (s.toggle name).toggle name = s := by
  rw [toggle, toggle, toggleFolded_toggleFolded h]

/-- On the entry of a group, its name is folded or unfolded. -/
theorem toggleExpanded?_of_isGroup (he : s.selected? = some e) (hgroup : e.isGroup = true) :
    s.toggleExpanded? = some (s.toggle e.code) := by
  rw [toggleExpanded?, he]
  exact if_pos hgroup

/-- On the entry of a leaf, nothing can be folded. -/
theorem toggleExpanded?_of_not_isGroup (he : s.selected? = some e) (hgroup : e.isGroup = false) :
    s.toggleExpanded? = none := by
  rw [toggleExpanded?, he]
  exact if_neg (by simp [hgroup])

/-- The lines around the selected one are the same when its name is folded or unfolded. -/
theorem DistinctNames.exists_lines_eq (h : DistinctNames s.menu) (he : s.selected? = some e) :
    ∃ p before after, p ∈ s.menu.places ∧ e = entryOf s.folded p.above.length p.node ∧
      before.length = s.cursor ∧
      s.visible = before ++ e :: ((if e.code ∈ s.folded then [] else s.block p) ++ after) ∧
      (s.toggle e.code).visible =
        before ++ entryOf (s.toggle e.code).folded p.above.length p.node ::
          ((if e.code ∈ (s.toggle e.code).folded then [] else s.block p) ++ after) := by
  obtain ⟨p, hp, hshown, rfl⟩ := exists_place_of_selected? he
  obtain ⟨before, after, hbefore, hbelow, hafter, habove, hlines⟩ := h.exists_visible_eq hp
  have hvisible : s.visible = shownLines s.folded 0 before ++ _ := hlines s.folded hshown
  refine ⟨p, shownLines s.folded 0 before, shownLines s.folded 0 after, hp, rfl, ?_, hvisible, ?_⟩
  · -- the line of the place is where the cursor is, since no other line is the same
    have hlt : s.cursor < s.visible.length := (List.getElem?_eq_some_iff.1 he).1
    have hget : s.visible[(shownLines s.folded 0 before).length]? =
        some (entryOf s.folded p.above.length p.node) := by
      rw [hvisible, List.getElem?_append_right (Nat.le_refl _), Nat.sub_self]
      rfl
    exact ((List.getElem?_inj hlt h.nodup_visible).1 (he.trans hget.symm)).symm
  · have hshown' : Shown (toggleFolded s.folded p.node.label.name) p := by
      intro r hr
      have hne : r.name ≠ p.node.label.name := by
        intro heq
        exact habove (heq ▸ List.mem_map_of_mem hr)
      rw [mem_toggleFolded_of_ne hne]
      exact hshown r hr
    show visibleForest (toggleFolded s.folded p.node.label.name) 0 s.menu = _
    rw [hlines _ hshown', shownLines_toggleFolded hbefore, shownLines_toggleFolded hafter,
      shownLines_toggleFolded hbelow]
    rfl

/-- Folding the selected group takes its block away, and unfolding it puts the block in. -/
theorem DistinctNames.exists_block (h : DistinctNames s.menu) (hordered : s.folded.Pairwise (· < ·))
    (he : s.selected? = some e) :
    ∃ p before after, p ∈ s.menu.places ∧ p.node.label.name = e.code ∧ before.length = s.cursor ∧
      (e.expanded = true →
        s.visible = before ++ e :: s.block p ++ after ∧
        (s.toggle e.code).visible = before ++ { e with expanded := false } :: after) ∧
      (e.expanded = false →
        s.visible = before ++ e :: after ∧
        (s.toggle e.code).visible =
          before ++ { e with expanded := true } :: s.block p ++ after) := by
  obtain ⟨p, before, after, hp, hentry, hcursor, hvisible, hvisible'⟩ := h.exists_lines_eq he
  have hentry' : entryOf (s.toggle e.code).folded p.above.length p.node =
      { e with expanded := !e.expanded } := by
    rw [hentry]
    exact entryOf_toggleFolded hordered _ _
  have hcode : e.code = p.node.label.name := congrArg Entry.code hentry
  have hexpanded : e.expanded = !s.folded.contains e.code := by
    rw [hentry]
    rfl
  have hmem : e.code ∈ (s.toggle e.code).folded ↔ e.code ∉ s.folded :=
    mem_toggleFolded_self hordered
  -- folding shows and hides the same block, so one splitting of the lines serves both directions
  rw [hentry'] at hvisible'
  refine ⟨p, before, after, hp, hcode.symm, hcursor, fun hopen ↦ ?_, fun hclosed ↦ ?_⟩
  · have hnot : e.code ∉ s.folded := by simpa [hopen] using hexpanded
    rw [if_neg hnot] at hvisible
    rw [if_pos (hmem.2 hnot), hopen] at hvisible'
    exact ⟨hvisible.trans (by simp), hvisible'⟩
  · have hin : e.code ∈ s.folded := by simpa [hclosed] using hexpanded
    rw [if_pos hin] at hvisible
    rw [if_neg fun hfolded ↦ hmem.1 hfolded hin, hclosed] at hvisible'
    exact ⟨hvisible, hvisible'.trans (by simp)⟩

/-- The line under the cursor stays there, and changes only in whether it is expanded. -/
theorem DistinctNames.selected?_toggle (h : DistinctNames s.menu)
    (hordered : s.folded.Pairwise (· < ·)) (he : s.selected? = some e) :
    (s.toggle e.code).selected? = some { e with expanded := !e.expanded } := by
  obtain ⟨p, before, after, -, -, hcursor, hopen, hclosed⟩ := h.exists_block hordered he
  have hcursor' : (s.toggle e.code).cursor = before.length := hcursor.symm
  rw [selected?, hcursor']
  cases hexpanded : e.expanded with
  | true =>
    rw [(hopen hexpanded).2, List.getElem?_append_right (Nat.le_refl _), Nat.sub_self]
    rfl
  | false =>
    rw [(hclosed hexpanded).2, List.append_assoc, List.getElem?_append_right (Nat.le_refl _),
      Nat.sub_self]
    rfl

/-- **A fold is local where names are distinct.** For every sidebar that comes from a menu by
whatever is done to it, if the names of the menu that it then has are distinct:
1. if the selected line is that of a group, folding or unfolding it takes away the block of what
   stands below the group, or puts it in, right after the cursor; no other line changes, and of the
   selected one only whether it is expanded, so it stays selected; no other name is folded or
   unfolded; and doing it again brings back the whole sidebar;
2. if it is that of a leaf, nothing can be folded and nothing changes. -/
theorem toggleExpanded_of_distinctNames (menu : Forest MenuRecord) (collapsed : Bool)
    (ops : List Op) (hnames : DistinctNames ((ofMenu menu collapsed).after ops).menu) :
    let s := (ofMenu menu collapsed).after ops
    (∀ e, s.selected? = some e → e.isGroup = true →
      ∃ s' p before after,
        s.toggleExpanded? = some s' ∧ s'.toggleExpanded? = some s ∧
        p ∈ s.menu.places ∧ p.node.label.name = e.code ∧ before.length = s.cursor ∧
        (e.expanded = true →
          s.visible = before ++ e :: s.block p ++ after ∧
          s'.visible = before ++ { e with expanded := false } :: after) ∧
        (e.expanded = false →
          s.visible = before ++ e :: after ∧
          s'.visible = before ++ { e with expanded := true } :: s.block p ++ after) ∧
        s'.selected? = some { e with expanded := !e.expanded } ∧
        ∀ name, name ≠ e.code → (name ∈ s'.folded ↔ name ∈ s.folded)) ∧
    (∀ e, s.selected? = some e → e.isGroup = false →
      s.toggleExpanded? = none ∧ s.step .toggleExpanded = s) := by
  intro s
  have hordered : s.folded.Pairwise (· < ·) := pairwise_folded_after menu collapsed ops
  refine ⟨fun e he hgroup ↦ ?_, fun e he hgroup ↦ ?_⟩
  · obtain ⟨p, before, after, hp, hcode, hcursor, hopen, hclosed⟩ :=
      hnames.exists_block hordered he
    have hselected := hnames.selected?_toggle hordered he
    have hback : (s.toggle e.code).toggleExpanded? = some s := by
      rw [toggleExpanded?_of_isGroup hselected hgroup, toggle_toggle hordered]
    exact ⟨s.toggle e.code, p, before, after, toggleExpanded?_of_isGroup he hgroup, hback, hp,
      hcode, hcursor, hopen, hclosed, hselected, fun name hne ↦ mem_toggleFolded_of_ne hne⟩
  · have hnone : s.toggleExpanded? = none := toggleExpanded?_of_not_isGroup he hgroup
    refine ⟨hnone, ?_⟩
    rw [step, hnone]
    rfl

/-- A menu with a group inside a group. -/
def sampleNested : Forest MenuRecord :=
  [.node (Sample.menuRecord 1 "events" "/events" none 1) [],
    .node (Sample.menuRecord 2 "management" "" none 2)
      [.node (Sample.menuRecord 3 "vendors" "/vendors" (some 2) 1) [],
        .node (Sample.menuRecord 4 "money" "" (some 2) 2)
          [.node (Sample.menuRecord 5 "payments" "/payments" (some 4) 1) []]]]

/-- The inner group is folded, then the outer one: the inner one is still folded, and unfolding the
outer one brings back the sidebar as it was. -/
theorem inner_group_stays_folded :
    let s := (ofMenu sampleNested false).after [.moveCursor 3, .toggleExpanded, .moveCursor (-2)]
    DistinctNames s.menu ∧ s.visible.map (·.code) = ["events", "management", "vendors", "money"] ∧
      ∃ s', s.toggleExpanded? = some s' ∧ "money" ∈ s'.folded ∧ s'.toggleExpanded? = some s := by
  intro s
  have hnames : DistinctNames s.menu := by decide
  have hlines : s.visible.map (·.code) = ["events", "management", "vendors", "money"] := by cbv
  have hselected : s.selected? =
      some ⟨"management", "management", "", "", 0, true, true⟩ := by cbv
  have hfolded : s.folded = ["money"] := by cbv
  have hmoney : "money" ∈ s.folded := hfolded ▸ List.mem_singleton_self "money"
  obtain ⟨s', -, -, -, hfold, hback, -, -, -, -, -, -, hothers⟩ :=
    (toggleExpanded_of_distinctNames sampleNested false _ hnames).1 _ hselected rfl
  exact ⟨hnames, hlines, s', hfold, (hothers "money" (by decide)).2 hmoney, hback⟩

end PitchDesk.Sidebar
