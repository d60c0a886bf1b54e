import PitchDesk.Proofs.Forest.Place
import PitchDesk.Sidebar

/-!
# What a sidebar shows of its menu

A place of the menu is shown if no group that it stands below is folded. The visible lines are
those of the shown places, in the order of the walk, `visible_eq_shown`: to leave out what is below
a folded group on the way down comes to the same as to walk through the whole menu and to leave it
out then. This holds for every menu and whatever is folded, also where names repeat.

The places of a menu are told without any walk, by what stands below what
(`Forest.mem_places_iff`), and neither folds nor lines occur there; so the statement does not say
again how the sidebar finds its lines. A list of places tells the order too, which membership alone
would leave open. The name of a place itself does not matter: a folded group is shown, only what is
below it is not.
-/

namespace PitchDesk.Sidebar

variable {folded : List String} {depth : Nat}

/-- No group that a place stands below is folded. -/
def Shown (folded : List String) (p : Place MenuRecord) : Prop :=
  ∀ r ∈ p.above, r.name ∉ folded

instance : DecidablePred (Shown folded) :=
  fun p ↦ inferInstanceAs (Decidable (∀ r ∈ p.above, r.name ∉ folded))

/-- The lines of those among some places that are shown, if the trees that hold them stand at some
depth. -/
def shownLines (folded : List String) (depth : Nat) (ps : List (Place MenuRecord)) : List Entry :=
  (ps.filter (Shown folded)).map fun p ↦ entryOf folded (depth + p.above.length) p.node

theorem shownLines_append (folded : List String) (depth : Nat) (ps qs : List (Place MenuRecord)) :
    shownLines folded depth (ps ++ qs) =
      shownLines folded depth ps ++ shownLines folded depth qs := by
  rw [shownLines, List.filter_append, List.map_append]
  rfl

/-- A shown place comes first with its line. -/
theorem shownLines_cons {p : Place MenuRecord} (hp : Shown folded p)
    (ps : List (Place MenuRecord)) :
    shownLines folded depth (p :: ps) =
      entryOf folded (depth + p.above.length) p.node :: shownLines folded depth ps := by
  rw [shownLines, List.filter_cons_of_pos (by simpa using hp), List.map_cons]
  rfl

/-- A place within another one is shown if the other one is, is not folded, and nothing between them
is. -/
theorem shown_within {p q : Place MenuRecord} :
    Shown folded (p.within q) ↔
      Shown folded p ∧ p.node.label.name ∉ folded ∧ Shown folded q := by
  rw [Shown, Place.within, List.forall_mem_append, List.forall_mem_cons]
  rfl

/-- Below a folded group nothing is shown; below another that is shown itself, what is shown stands
one deeper than the group. -/
theorem shownLines_map_within {p : Place MenuRecord} (hp : Shown folded p)
    (qs : List (Place MenuRecord)) :
    shownLines folded depth (qs.map p.within) =
      if p.node.label.name ∈ folded then []
      else shownLines folded (depth + p.above.length + 1) qs := by
  by_cases hfolded : p.node.label.name ∈ folded
  · rw [if_pos hfolded, shownLines, List.filter_eq_nil_iff.2]
    · rfl
    · simp [shown_within, hfolded]
  · have hsame : qs.filter ((fun q ↦ decide (Shown folded q)) ∘ p.within) =
        qs.filter fun q ↦ decide (Shown folded q) := by
      refine List.filter_congr fun q _ ↦ ?_
      simp [shown_within, hp, hfolded]
    rw [if_neg hfolded, shownLines, List.filter_map, hsame, List.map_map]
    refine List.map_congr_left fun q _ ↦ ?_
    have hdepth : depth + (p.within q).above.length =
        depth + p.above.length + 1 + q.above.length := by
      simp only [Place.within, List.length_append, List.length_cons]
      omega
    rw [Function.comp_apply, hdepth]
    rfl

mutual

/-- The visible lines of a tree are those of its shown places. -/
theorem visibleTree_eq_shownLines (folded : List String) :
    ∀ (depth : Nat) (t : Tree MenuRecord),
      visibleTree folded depth t = shownLines folded depth t.places
  | depth, .node r ts => by
    have hroot : Shown folded ⟨[], .node r ts⟩ := nofun
    have hunder : Place.under r = Place.within ⟨[], .node r ts⟩ := rfl
    rw [visibleTree, Tree.places, shownLines_cons hroot, hunder, shownLines_map_within hroot,
      visibleForest_eq_shownLines folded (depth + 1) ts]
    refine congrArg (_ :: ·) (ite_congr ?_ (fun _ ↦ rfl) fun _ ↦ rfl)
    exact propext List.contains_iff_mem

/-- The visible lines of a forest are those of its shown places. -/
theorem visibleForest_eq_shownLines (folded : List String) :
    ∀ (depth : Nat) (ts : Forest MenuRecord),
      visibleForest folded depth ts = shownLines folded depth (Tree.placesAll ts)
  | _, [] => rfl
  | depth, t :: ts => by
    rw [visibleForest, Tree.placesAll, shownLines_append, visibleTree_eq_shownLines folded depth t,
      visibleForest_eq_shownLines folded depth ts]

end

/-- **The visible lines are the walk without what is below folded groups.** For every sidebar:
1. its visible lines are, in order, those of the places of the menu that stand below no folded
   group; the depth of a line is the number of nodes that its place stands below, and it is a group
   if and only if there is something below its node;
2. the places of the menu are all of its nodes with what each stands below, in the order of the
   walk;
3. with nothing folded, the names on the lines are those that the walk meets. -/
theorem visible_eq_shown (s : Sidebar) :
    s.visible = (s.menu.places.filter fun p ↦ ∀ r ∈ p.above, r.name ∉ s.folded).map (fun p ↦
      { code := p.node.label.name
        title := p.node.label.title
        path := p.node.label.path
        icon := p.node.label.icon
        depth := p.above.length
        isGroup := decide (p.node.children ≠ [])
        expanded := decide (p.node.label.name ∉ s.folded) }) ∧
    (∀ above t, ⟨above, t⟩ ∈ s.menu.places ↔ s.menu.StandsBelow above t) ∧
    s.menu.places.map (·.node.label) = s.menu.flatten ∧
    { s with folded := [] }.visible.map Entry.code = s.menu.flatten.map (·.name) := by
  refine ⟨?_, fun _ _ ↦ Forest.mem_places_iff, Tree.label_placesAll s.menu, ?_⟩
  · have hgroup (t : Tree MenuRecord) : t.isGroup = decide (t.children ≠ []) := by
      cases h : t.children <;> simp [Tree.isGroup, h]
    rw [visible, visibleForest_eq_shownLines, shownLines]
    refine List.map_congr_left fun p _ ↦ ?_
    simp [entryOf, hgroup]
  · have hall : (Tree.placesAll s.menu).filter (fun p ↦ decide (Shown [] p)) =
        Tree.placesAll s.menu :=
      List.filter_eq_self.2 fun p _ ↦ decide_eq_true fun _ _ ↦ List.not_mem_nil
    rw [visible, visibleForest_eq_shownLines, shownLines, hall, Forest.flatten,
      ← Tree.label_placesAll, List.map_map, List.map_map]
    rfl

end PitchDesk.Sidebar
