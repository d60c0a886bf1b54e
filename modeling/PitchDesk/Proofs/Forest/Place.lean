import PitchDesk.Proofs.Forest

/-!
# Places in a forest

A place is a node of a forest together with the labels of the nodes that it stands below.
`Forest.places` lists the places of a forest, `mem_places_iff`, in the order of the walk, so their
labels are the walk, `label_places`.

On that list everything that stands below a place comes right after it, in one block. Where some
key tells the labels apart, a place outside this block does not stand below any label with the key
of that place, `exists_places_eq`. So what depends on the keys of the nodes above a place changes
for that block only when it changes for one key.

The labels above a place begin with the topmost, so that a place within a place is the two lists
put together (`Place.within`). The key is a parameter since labels need not differ as a whole: in a
menu it is the name of a record, by which groups are folded.
-/

namespace PitchDesk

variable {α β : Type}

/-- A node of a forest with the labels of the nodes that it stands below, the topmost first. -/
structure Place (α : Type) where
  above : List α
  node : Tree α

namespace Place

/-- The place below one more node at the top. -/
def under (a : α) (p : Place α) : Place α :=
  ⟨a :: p.above, p.node⟩

/-- A place among the trees below the node of another place, seen from where that one is seen. -/
def within (p q : Place α) : Place α :=
  ⟨p.above ++ p.node.label :: q.above, q.node⟩

end Place

namespace Tree

mutual

/-- The places of a tree, each before those below it. -/
def places : Tree α → List (Place α)
  | .node a ts => ⟨[], .node a ts⟩ :: (placesAll ts).map (Place.under a)

/-- The places of a forest, tree by tree. -/
def placesAll : Forest α → List (Place α)
  | [] => []
  | t :: ts => places t ++ placesAll ts

end

end Tree

/-- The places of a forest, each before those below it. -/
def Forest.places (ts : Forest α) : List (Place α) :=
  Tree.placesAll ts

namespace Forest

/-- A tree stands in a forest below nodes with some labels, the topmost first. -/
inductive StandsBelow : Forest α → List α → Tree α → Prop
  | root {ts : Forest α} {t : Tree α} (ht : t ∈ ts) : StandsBelow ts [] t
  | inner {ts : Forest α} {s t : Tree α} {above : List α} (hs : s ∈ ts)
      (h : StandsBelow s.children above t) : StandsBelow ts (s.label :: above) t

/-- The places of a tree are its top, and those of the trees below it with the top above them. -/
theorem mem_places_tree {t : Tree α} {p : Place α} :
    p ∈ t.places ↔ p = ⟨[], t⟩ ∨ ∃ q ∈ places t.children, q.under t.label = p := by
  cases t
  rw [Tree.places, List.mem_cons, List.mem_map]
  rfl

/-- The places of a forest are those of its trees. -/
theorem mem_places_forest {ts : Forest α} {p : Place α} :
    p ∈ places ts ↔ ∃ t ∈ ts, p ∈ t.places := by
  induction ts with
  | nil => exact iff_of_false List.not_mem_nil fun ⟨_, ht, _⟩ ↦ List.not_mem_nil ht
  | cons t ts ih =>
    rw [places, Tree.placesAll, List.mem_append]
    simp only [List.mem_cons, exists_eq_or_imp]
    exact or_congr_right ih

/-- The places of a forest are all of its nodes with what each stands below. -/
theorem mem_places_iff {ts : Forest α} {above : List α} {t : Tree α} :
    ⟨above, t⟩ ∈ ts.places ↔ StandsBelow ts above t := by
  induction above generalizing ts with
  | nil =>
    rw [mem_places_forest]
    constructor
    · rintro ⟨s, hs, hp⟩
      rcases mem_places_tree.1 hp with heq | ⟨q, -, heq⟩
      · cases heq
        exact .root hs
      · cases heq
    · rintro ⟨ht⟩
      exact ⟨t, ht, mem_places_tree.2 (.inl rfl)⟩
  | cons a above ih =>
    rw [mem_places_forest]
    constructor
    · rintro ⟨s, hs, hp⟩
      rcases mem_places_tree.1 hp with heq | ⟨q, hq, heq⟩
      · cases heq
      · cases heq
        exact .inner hs (ih.1 hq)
    · rintro (_ | ⟨hs, h⟩)
      exact ⟨_, hs, mem_places_tree.2 (.inr ⟨_, ih.2 h, rfl⟩)⟩

end Forest

namespace Tree

mutual

/-- The places of a tree are listed in the order of the walk. -/
theorem label_places : ∀ t : Tree α, t.places.map (·.node.label) = t.flatten
  | .node a ts => by
    rw [places, flatten, List.map_cons, List.map_map, ← label_placesAll ts]
    rfl

theorem label_placesAll : ∀ ts : Forest α, (placesAll ts).map (·.node.label) = flattenAll ts
  | [] => rfl
  | t :: ts => by
    rw [placesAll, flattenAll, List.map_append, label_places t, label_placesAll ts]

end

mutual

/-- What a place of a tree stands below is in the tree. -/
theorem above_subset_flatten : ∀ {t : Tree α}, ∀ p ∈ t.places, p.above ⊆ t.flatten
  | .node a ts, p, hp => by
    rw [places, List.mem_cons, List.mem_map] at hp
    rcases hp with rfl | ⟨q, hq, rfl⟩
    · exact List.nil_subset _
    · exact List.cons_subset_cons a (above_subset_flattenAll q hq)

theorem above_subset_flattenAll :
    ∀ {ts : Forest α}, ∀ p ∈ placesAll ts, p.above ⊆ flattenAll ts
  | [], _, hp => by cases hp
  | t :: ts, p, hp => by
    rw [placesAll, List.mem_append] at hp
    rw [flattenAll]
    rcases hp with hp | hp
    · exact List.subset_append_of_subset_left _ (above_subset_flatten p hp)
    · exact List.subset_append_of_subset_right _ (above_subset_flattenAll p hp)

end

theorem label_mem_flatten {t : Tree α} {p : Place α} (hp : p ∈ t.places) :
    p.node.label ∈ t.flatten := by
  rw [← label_places]
  exact List.mem_map_of_mem hp

theorem label_mem_flattenAll {ts : Forest α} {p : Place α} (hp : p ∈ placesAll ts) :
    p.node.label ∈ flattenAll ts := by
  rw [← label_placesAll]
  exact List.mem_map_of_mem hp

variable {key : α → β}

mutual

/-- Everything below a place of a tree comes right after it, and nothing else of the tree stands
below a label with its key. -/
theorem exists_places_eq :
    ∀ {t : Tree α} {p : Place α}, (t.flatten.map key).Nodup → p ∈ t.places →
      ∃ before after,
        t.places = before ++ p :: (placesAll p.node.children).map p.within ++ after ∧
        ∀ q ∈ before ++ p :: after, key p.node.label ∉ q.above.map key
  | .node a ts, p, hkeys, hp => by
    rw [flatten, List.map_cons, List.nodup_cons] at hkeys
    obtain ⟨ha, hkeys⟩ := hkeys
    rw [places, List.mem_cons, List.mem_map] at hp
    rcases hp with rfl | ⟨p, hp, rfl⟩
    · -- the root is before everything else of the tree
      refine ⟨[], [], ?_, ?_⟩
      · rw [List.nil_append, List.append_nil, places]
        rfl
      · intro q hq
        obtain rfl : q = ⟨[], .node a ts⟩ := by simpa using hq
        exact List.not_mem_nil
    · obtain ⟨before, after, hsplit, hnot⟩ := exists_placesAll_eq hkeys hp
      refine ⟨⟨[], .node a ts⟩ :: before.map (Place.under a), after.map (Place.under a), ?_, ?_⟩
      · rw [places, hsplit, List.map_append, List.map_append, List.map_cons, List.map_map]
        rfl
      · have hroot : key p.node.label ≠ key a := by
          intro h
          exact ha (h ▸ List.mem_map_of_mem (label_mem_flattenAll hp))
        intro q hq
        rw [List.cons_append, List.mem_cons, ← List.map_cons, ← List.map_append,
          List.mem_map] at hq
        rcases hq with rfl | ⟨q, hq, rfl⟩
        · exact List.not_mem_nil
        · exact List.not_mem_cons_of_ne_of_not_mem hroot (hnot q hq)

theorem exists_placesAll_eq :
    ∀ {ts : Forest α} {p : Place α}, ((flattenAll ts).map key).Nodup → p ∈ placesAll ts →
      ∃ before after,
        placesAll ts = before ++ p :: (placesAll p.node.children).map p.within ++ after ∧
        ∀ q ∈ before ++ p :: after, key p.node.label ∉ q.above.map key
  | [], _, _, hp => by cases hp
  | t :: ts, p, hkeys, hp => by
    rw [flattenAll, List.map_append, List.nodup_append] at hkeys
    obtain ⟨htree, hforest, hdisjoint⟩ := hkeys
    rw [placesAll, List.mem_append] at hp
    rcases hp with hp | hp
    · obtain ⟨before, after, hsplit, hnot⟩ := exists_places_eq htree hp
      refine ⟨before, after ++ placesAll ts, ?_, ?_⟩
      · rw [placesAll, hsplit, List.append_assoc]
      · intro q hq
        rw [← List.cons_append, ← List.append_assoc, List.mem_append] at hq
        rcases hq with hq | hq
        · exact hnot q hq
        -- the keys of the other trees are different ones, so none of them is above
        · intro h
          have hmem := List.map_subset key (above_subset_flattenAll q hq) h
          exact hdisjoint _ (List.mem_map_of_mem (label_mem_flatten hp)) _ hmem rfl
    · obtain ⟨before, after, hsplit, hnot⟩ := exists_placesAll_eq hforest hp
      refine ⟨t.places ++ before, after, ?_, ?_⟩
      · rw [placesAll, hsplit, List.append_assoc, List.append_assoc, List.append_assoc]
      · intro q hq
        rw [List.append_assoc, List.mem_append] at hq
        rcases hq with hq | hq
        · intro h
          have hmem := List.map_subset key (above_subset_flatten q hq) h
          exact hdisjoint _ hmem _ (List.mem_map_of_mem (label_mem_flattenAll hp)) rfl
        · exact hnot q hq

end

end Tree

end PitchDesk
