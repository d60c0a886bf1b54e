import PitchDesk.Forest

/-!
# Walking a forest

The labels of a forest are those of its trees one after the other, and changing every label changes
the labels that are met on the walk one by one. What is below a node of a forest is told by
`Forest.HasNode`, and changing every label changes the nodes one by one too.

A forest is known by its topmost labels and by those below each node, so two forests that agree in
these are the same, `Forest.eq_map_of_labels`.

A tree is a node with a list of trees below it, so all recursion goes through a tree and a forest
by turns, and lemmas are stated for both at once. Outside of this module only those on forests are
used; they are stated for `Forest.flatten` and `Forest.map`, which are the walks over lists of
trees.
-/

namespace PitchDesk

variable {α β γ : Type}

namespace Tree

mutual

theorem flatten_map (f : α → β) : ∀ t : Tree α, (t.map f).flatten = t.flatten.map f
  | .node a ts => by
    rw [map, flatten, flatten, List.map_cons, flattenAll_mapAll f ts]

theorem flattenAll_mapAll (f : α → β) :
    ∀ ts : Forest α, flattenAll (mapAll f ts) = (flattenAll ts).map f
  | [] => rfl
  | t :: ts => by
    rw [mapAll, flattenAll, flattenAll, List.map_append, flatten_map f t, flattenAll_mapAll f ts]

end

mutual

theorem map_map (g : β → γ) (f : α → β) : ∀ t : Tree α, (t.map f).map g = t.map (g ∘ f)
  | .node a ts => by
    rw [map, map, map, mapAll_mapAll g f ts]
    rfl

theorem mapAll_mapAll (g : β → γ) (f : α → β) :
    ∀ ts : Forest α, mapAll g (mapAll f ts) = mapAll (g ∘ f) ts
  | [] => rfl
  | t :: ts => by
    rw [mapAll, mapAll, mapAll, map_map g f t, mapAll_mapAll g f ts]

end

mutual

theorem map_congr {f g : α → β} :
    ∀ t : Tree α, (∀ a ∈ t.flatten, f a = g a) → t.map f = t.map g
  | .node a ts, h => by
    rw [flatten, List.forall_mem_cons] at h
    rw [map, map, h.1, mapAll_congr ts h.2]

theorem mapAll_congr {f g : α → β} :
    ∀ ts : Forest α, (∀ a ∈ flattenAll ts, f a = g a) → mapAll f ts = mapAll g ts
  | [], _ => rfl
  | t :: ts, h => by
    rw [flattenAll, List.forall_mem_append] at h
    rw [mapAll, mapAll, map_congr t h.1, mapAll_congr ts h.2]

end

@[simp]
theorem label_map (f : α → β) (t : Tree α) : (t.map f).label = f t.label := by
  cases t
  rfl

@[simp]
theorem children_map (f : α → β) (t : Tree α) :
    (t.map f).children = Forest.map f t.children := by
  cases t
  rfl

end Tree

namespace Forest

/-- The walk through a forest with changed labels meets the changed labels. -/
theorem flatten_map (f : α → β) (ts : Forest α) :
    Forest.flatten (Forest.map f ts) = (Forest.flatten ts).map f :=
  Tree.flattenAll_mapAll f ts

/-- The labels of a forest are those of its trees. -/
theorem flatten_eq_flatMap (ts : Forest α) : Forest.flatten ts = ts.flatMap Tree.flatten := by
  induction ts with
  | nil => rfl
  | cons t ts ih =>
    rw [List.flatMap_cons, ← ih]
    rfl

theorem map_map (g : β → γ) (f : α → β) (ts : Forest α) :
    Forest.map g (Forest.map f ts) = Forest.map (g ∘ f) ts :=
  Tree.mapAll_mapAll g f ts

theorem map_congr {f g : α → β} {ts : Forest α} (h : ∀ a ∈ Forest.flatten ts, f a = g a) :
    Forest.map f ts = Forest.map g ts :=
  Tree.mapAll_congr ts h

/-- Changing each label of a forest changes its trees one by one. -/
theorem map_eq (f : α → β) (ts : Forest α) : Forest.map f ts = List.map (Tree.map f) ts := by
  induction ts with
  | nil => rfl
  | cons t ts ih =>
    rw [List.map_cons, ← ih]
    rfl

/-- The labels of the topmost nodes. -/
def labels (ts : Forest α) : List α :=
  List.map Tree.label ts

theorem labels_map (f : α → β) (ts : Forest α) :
    labels (Forest.map f ts) = (labels ts).map f := by
  rw [labels, labels, map_eq, List.map_map, List.map_map]
  exact List.map_congr_left fun t _ ↦ Tree.label_map f t

/-! ### Nodes -/

/-- A tree stands somewhere in a forest. -/
inductive HasNode : Forest α → Tree α → Prop
  | root {ts : Forest α} {t : Tree α} (h : t ∈ ts) : HasNode ts t
  | inner {ts : Forest α} {s t : Tree α} (hs : s ∈ ts) (h : HasNode s.children t) : HasNode ts t

/-- The nodes of a forest with changed labels are the nodes with changed labels. -/
theorem HasNode.of_map {f : α → β} {ts : Forest α} {t : Tree β} (h : HasNode (Forest.map f ts) t) :
    ∃ s, HasNode ts s ∧ t = s.map f := by
  generalize hts : Forest.map f ts = ts' at h
  induction h generalizing ts with
  | root ht =>
    rw [← hts, map_eq] at ht
    obtain ⟨s, hs, rfl⟩ := List.mem_map.1 ht
    exact ⟨s, .root hs, rfl⟩
  | inner hs' _ ih =>
    rw [← hts, map_eq] at hs'
    obtain ⟨s, hs, rfl⟩ := List.mem_map.1 hs'
    obtain ⟨r, hr, ht⟩ := ih (Tree.children_map f s).symm
    exact ⟨r, .inner hs hr, ht⟩

/-- A node of some trees is a node of more trees. -/
theorem HasNode.mono {ts us : Forest α} {t : Tree α} (h : HasNode ts t) (hsubset : ts ⊆ us) :
    HasNode us t := by
  cases h with
  | root ht => exact .root (hsubset ht)
  | inner hs h => exact .inner (hsubset hs) h

/-- The walk meets the first tree from its top down, and then the others. -/
theorem flatten_cons (t : Tree α) (ts : Forest α) :
    Forest.flatten (t :: ts) = t.label :: (Forest.flatten t.children ++ Forest.flatten ts) := by
  cases t
  rfl

/-- The topmost labels are met on the walk in their order. -/
theorem labels_sublist_flatten (ts : Forest α) : (labels ts).Sublist (Forest.flatten ts) := by
  induction ts with
  | nil => exact List.Sublist.refl _
  | cons t ts ih =>
    rw [flatten_cons]
    exact (ih.trans (List.sublist_append_right _ _)).cons_cons _

/-- The walk through what is below a topmost node is part of the walk. -/
theorem flatten_children_sublist {ts : Forest α} {t : Tree α} (ht : t ∈ ts) :
    (Forest.flatten t.children).Sublist (Forest.flatten ts) := by
  induction ht with
  | head ts =>
    rw [flatten_cons]
    exact (List.sublist_append_left _ _).cons _
  | tail s _ ih =>
    rw [flatten_cons]
    exact (ih.trans (List.sublist_append_right _ _)).cons _

/-- The walk through what is below a node is part of the walk. -/
theorem HasNode.flatten_children_sublist {ts : Forest α} {t : Tree α} (h : HasNode ts t) :
    (Forest.flatten t.children).Sublist (Forest.flatten ts) := by
  induction h with
  | root ht => exact Forest.flatten_children_sublist ht
  | inner hs _ ih => exact ih.trans (Forest.flatten_children_sublist hs)

/-- The walk meets the label of every node. -/
theorem HasNode.label_mem_flatten {ts : Forest α} {t : Tree α} (h : HasNode ts t) :
    t.label ∈ Forest.flatten ts := by
  induction h with
  | root ht => exact (labels_sublist_flatten _).subset (List.mem_map_of_mem ht)
  | inner hs _ ih => exact (Forest.flatten_children_sublist hs).subset ih

/-! ### Forests that agree level by level -/

/-- A forest is another one with changed labels if the topmost labels are those of the other one
changed, and so are the labels below each node whose own label is. -/
theorem eq_map_of_labels (f : α → β) :
    ∀ (ts : Forest α) (us : Forest β), labels us = (labels ts).map f →
      (∀ t u, HasNode ts t → HasNode us u → u.label = f t.label →
        labels u.children = (labels t.children).map f) →
      us = Forest.map f ts
  | [], us, hroots, _ => List.map_eq_nil_iff.1 hroots
  | .node a cs :: ts, us, hroots, hbelow => by
    obtain ⟨u, us, rfl, hu, hus⟩ := List.map_eq_cons_iff.1 hroots
    obtain ⟨b, ds⟩ := u
    have hchildren : ds = Forest.map f cs :=
      eq_map_of_labels f cs ds (hbelow _ _ (.root List.mem_cons_self) (.root List.mem_cons_self) hu)
        fun t u ht hu ↦ hbelow t u (.inner List.mem_cons_self ht) (.inner List.mem_cons_self hu)
    have hrest : us = Forest.map f ts := by
      refine eq_map_of_labels f ts us hus fun t u ht hu ↦ ?_
      exact hbelow t u (ht.mono (List.subset_cons_self _ _)) (hu.mono (List.subset_cons_self _ _))
    have hlabel : b = f a := hu
    rw [hchildren, hrest, hlabel]
    rfl

end Forest

end PitchDesk
