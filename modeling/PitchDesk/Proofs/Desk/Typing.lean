import Mathlib.Data.Set.List
import PitchDesk.Proofs.Desk.Tidy
import PitchDesk.Proofs.Sidebar.Reach

/-!
# Keys one after the other

The keys that move the highlight of an open menu change nothing but the highlight, and while the
sidebar has the focus, the keys that move its cursor and fold its groups change nothing but the
sidebar. Nothing is asked of the outside meanwhile. So what many of them lead to is told at once,
by `play_typed_foldl`, and the key that comes after them meets the desk that is told there,
`play_typed_concat`.

## Places

Both the items of a menu and the lines of the sidebar are places from the first to a last one,
among which a key goes one on or one back and stops at the ends. `Strides` says so of a family of
desks, one for each place. From it follow that the keys lead to every place and to no desk beside
the family (`Strides.exists_keys`, `Strides.exists_play_typed`), and what the enter key does once
they have led to a place of some kind (`Strides.entersAt`). `EntersAt` asks for both: that there
are such keys, and that all such keys do.
-/

namespace PitchDesk

/-! ### What keys are for -/

namespace Key

/-- By how many places a key moves the highlight of a menu, or the cursor of the sidebar. -/
def stride? (k : Key) : Option Int :=
  match k.code with
  | .char 'j' | .down => some 1
  | .char 'k' | .up => some (-1)
  | _ => none

/-- What a key does to the sidebar, if it changes nothing else. -/
def sidebarOp? (k : Key) : Option Sidebar.Op :=
  match k.code with
  | .char ' ' | .char 'h' | .left => some .toggleExpanded
  | _ => k.stride?.map .moveCursor

variable {k : Key} {δ : Int}

/-- The keys for moving are those of the letters and the arrows. -/
theorem stride?_eq_some_iff :
    k.stride? = some δ ↔
      δ = 1 ∧ (k.code = .char 'j' ∨ k.code = .down) ∨
        δ = -1 ∧ (k.code = .char 'k' ∨ k.code = .up) := by
  rcases k with ⟨code, control, shift, alt⟩
  simp only [stride?]
  split <;> simp_all [eq_comm]

/-- The keys that change the sidebar alone fold a group, or move its cursor. -/
theorem sidebarOp?_eq_some_iff {op : Sidebar.Op} :
    k.sidebarOp? = some op ↔
      op = .toggleExpanded ∧ (k.code = .char ' ' ∨ k.code = .char 'h' ∨ k.code = .left) ∨
        ∃ δ, op = .moveCursor δ ∧ k.stride? = some δ := by
  rcases k with ⟨code, control, shift, alt⟩
  simp only [sidebarOp?]
  split <;> simp_all [stride?, eq_comm, and_comm]

/-- What each of some things comes from, all of them come from. -/
theorem exists_map_eq_map {α β γ : Type} {f : α → γ} {g : β → γ} {ys : List β}
    (h : ∀ y ∈ ys, ∃ x, f x = g y) : ∃ xs : List α, xs.map f = ys.map g := by
  have hmem : ys.map g ∈ Set.range (List.map f) := by
    rw [Set.range_list_map]
    exact List.forall_mem_map.2 h
  exact hmem

/-- Every single move of the highlight or the cursor has its key. -/
theorem exists_map_stride? {ds : List Int} (h : ∀ δ ∈ ds, δ = 1 ∨ δ = -1) :
    ∃ ks : List Key, ks.map stride? = ds.map some := by
  refine exists_map_eq_map fun δ hδ ↦ ?_
  rcases h δ hδ with rfl | rfl
  · exact ⟨⟨.char 'j', false, false, false⟩, rfl⟩
  · exact ⟨⟨.char 'k', false, false, false⟩, rfl⟩

/-- Every fold and every single move of the cursor has its key. -/
theorem exists_map_sidebarOp? {ops : List Sidebar.Op} (h : ∀ op ∈ ops, op ∈ Sidebar.smallOps) :
    ∃ ks : List Key, ks.map sidebarOp? = ops.map some := by
  refine exists_map_eq_map fun op hop ↦ ?_
  have hop := h op hop
  simp only [Sidebar.smallOps, List.mem_cons, List.not_mem_nil, or_false] at hop
  rcases hop with rfl | rfl | rfl
  · exact ⟨⟨.char 'j', false, false, false⟩, rfl⟩
  · exact ⟨⟨.char 'k', false, false, false⟩, rfl⟩
  · exact ⟨⟨.char 'h', false, false, false⟩, rfl⟩

theorem isSome_of_map_eq {β : Type} {f : Key → Option β} {ks : List Key} {bs : List β}
    (h : ks.map f = bs.map some) : ∀ k ∈ ks, (f k).isSome := by
  intro k hk
  have hmem : f k ∈ bs.map some := h ▸ List.mem_map_of_mem hk
  obtain ⟨b, -, hb⟩ := List.mem_map.1 hmem
  rw [← hb, Option.isSome_some]

/-- Keys that are for moving by some places move by some places one after the other. -/
theorem exists_map_some_eq {ks : List Key} (h : ∀ k ∈ ks, k.stride?.isSome) :
    ∃ ds : List Int, ks.map stride? = ds.map some := by
  obtain ⟨ds, hds⟩ := exists_map_eq_map (f := some) (g := stride?) fun k hk ↦
    (Option.isSome_iff_exists.1 (h k hk)).imp fun _ hδ ↦ hδ.symm
  exact ⟨ds, hds.symm⟩

end Key

namespace Desk

variable {o : Oracle} {a : Answers} {d d' : Desk} {k : Key} {ks : List Key} {m : OpenMenu}
  {op : Sidebar.Op} {ops : List Sidebar.Op}

/-- The occasions on which some keys are typed, while the outside goes on answering as it does. -/
def typed (a : Answers) (ks : List Key) : List Occasion :=
  ks.map fun k ↦ ⟨a, .key k⟩

theorem play_append (o : Oracle) (d : Desk) (xs ys : List Occasion) :
    play o d (xs ++ ys) = (play o d xs).andThen (play o · ys) := by
  induction xs generalizing d with
  | nil => rfl
  | cons x xs ih =>
    show (d.step o x.answers x.input).andThen (play o · (xs ++ ys)) = _
    simp [ih, play, Turn.andThen, Bool.or_assoc]

/-- A key that only leads to another desk leaves the keys after it to that one. -/
theorem play_typed_cons (h : d.key o a k = d'.idle) (ks : List Key) :
    play o d (typed a (k :: ks)) = play o d' (typed a ks) := by
  show (d.key o a k).andThen _ = _
  rw [h]
  rfl

/-- After keys that only lead to another desk, the next one meets that desk. -/
theorem play_typed_concat (h : play o d (typed a ks) = d'.idle) (k : Key) :
    play o d (typed a (ks ++ [k])) = d'.key o a k := by
  have hlast : play o d' (typed a [k]) = d'.key o a k := by
    simp [typed, play, Turn.andThen, idle, step]
  rw [typed, List.map_append, play_append, ← typed, h, ← hlast]
  rfl

/-- If keys of some kind lead among some desks from one to another, many of them do so one after
the other. -/
theorem play_typed_foldl {σ β : Type} {f : σ → Desk} {act : σ → β → σ} {op? : Key → Option β}
    (h : ∀ s k b, op? k = some b → (f s).key o a k = (f (act s b)).idle) (s : σ) {bs : List β}
    (hks : ks.map op? = bs.map some) :
    play o (f s) (typed a ks) = (f (bs.foldl act s)).idle := by
  induction ks generalizing s bs with
  | nil =>
    obtain rfl : bs = [] := by simpa using hks.symm
    rfl
  | cons k ks ih =>
    obtain ⟨b, bs, rfl⟩ : ∃ b bs', bs = b :: bs' :=
      List.exists_cons_of_ne_nil (by rintro rfl; cases hks)
    rw [List.map_cons, List.map_cons, List.cons.injEq] at hks
    rw [play_typed_cons (h s k b hks.1) ks]
    exact ih _ hks.2

/-! ### From place to place -/

/-- Among some desks, one for each place, the keys for moving lead from place to place. -/
def Strides (o : Oracle) (a : Answers) (f : Nat → Desk) (last : Nat) : Prop :=
  ∀ (i : Nat) (k : Key) (δ : Int), k.stride? = some δ →
    (f i).key o a k = (f (stride last i δ)).idle

variable {f : Nat → Desk} {last i j : Nat}

/-- The keys for moving lead to no other desks. -/
theorem Strides.exists_play_typed (h : Strides o a f last) (i : Nat)
    (hks : ∀ k ∈ ks, k.stride?.isSome) : ∃ j, play o (f i) (typed a ks) = (f j).idle := by
  obtain ⟨ds, hds⟩ := Key.exists_map_some_eq hks
  exact ⟨_, play_typed_foldl h i hds⟩

/-- The keys for moving lead to every place. -/
theorem Strides.exists_keys (h : Strides o a f last) (i : Nat) (hj : j ≤ last) :
    ∃ ks, (∀ k ∈ ks, k.stride?.isSome) ∧ play o (f i) (typed a ks) = (f j).idle := by
  obtain ⟨ds, hds, hplace⟩ := exists_strides hj i
  obtain ⟨ks, hks⟩ := Key.exists_map_stride? hds
  exact ⟨ks, Key.isSome_of_map_eq hks, by rw [play_typed_foldl h i hks, hplace]⟩

/-- The keys for moving can lead to a desk of some kind, and whenever they have led to one, the
enter key leads to a certain turn. -/
def EntersAt (o : Oracle) (a : Answers) (d : Desk) (P : Desk → Prop) (t : Turn) : Prop :=
  (∃ ks, (∀ k ∈ ks, k.stride?.isSome) ∧ P (play o d (typed a ks)).desk) ∧
    ∀ ks, (∀ k ∈ ks, k.stride?.isSome) → P (play o d (typed a ks)).desk →
      ∀ k, k.code = .enter → play o d (typed a (ks ++ [k])) = t

/-- Among the desks of some places, the enter key at one of them is the enter key at it however one
came there. -/
theorem Strides.entersAt {P : Desk → Prop} {t : Turn} (h : Strides o a f last) (i : Nat)
    (hj : j ≤ last) (hP : ∀ i, P (f i) ↔ i = j)
    (henter : ∀ k, k.code = .enter → (f j).key o a k = t) : EntersAt o a (f i) P t := by
  refine ⟨?_, fun ks hks hplace k hk ↦ ?_⟩
  · obtain ⟨ks, hks, hplay⟩ := h.exists_keys i hj
    exact ⟨ks, hks, by rw [hplay]; exact (hP j).2 rfl⟩
  · obtain ⟨i', hplay⟩ := h.exists_play_typed i hks
    rw [hplay] at hplace
    obtain rfl := (hP i').1 hplace
    rw [play_typed_concat hplay, henter k hk]

/-! ### While a menu is open -/

/-- The desk with a menu open whose highlight is on some item. -/
def highlight (d : Desk) (m : OpenMenu) (i : Nat) : Desk :=
  { d with menu := some { m with highlighted := i } }

theorem highlight_highlighted (hm : d.menu = some m) : d.highlight m m.highlighted = d := by
  rw [highlight, ← hm]

/-- The keys for moving move the highlight of an open menu, and nothing else. -/
theorem Fits.strides (hfits : d.Fits m) (hfree : d.overlay = none) :
    Strides o a (d.highlight m) (m.items - 1) := by
  intro i k δ hk
  obtain ⟨v, caps, r, hv, hcaps, hr, hitems, hhigh⟩ := hfits
  have hfree' : (d.highlight m i).overlay = none := hfree
  have hsome : (d.highlight m i).menu.isSome = true := rfl
  have hopen : (d.highlight m i).openMenu? = some (m.row, r.actions caps) :=
    openMenu?_eq (m := { m with highlighted := i }) rfl hv hcaps hr
  have hmoved : (d.highlight m i).menu.moveHighlight (r.actions caps) δ =
      (d.highlight m (stride (m.items - 1) i δ)).menu := by
    have hne : (r.actions caps).isEmpty = false := by
      rw [ActionMenu.isEmpty, List.isEmpty_eq_false_iff, ← List.length_pos_iff]
      exact Nat.zero_lt_of_lt (hhigh.trans_eq hitems)
    simp only [highlight, Dropdown.moveHighlight, Option.map_some, hne, ← hitems]
    rfl
  rcases Key.stride?_eq_some_iff.1 hk with ⟨rfl, hcode | hcode⟩ | ⟨rfl, hcode | hcode⟩ <;>
    simp [key, menuKey, hcode, hfree', hsome, hopen, hmoved] <;> rfl

/-! ### While the sidebar has the focus -/

/-- A key that is for the sidebar alone changes nothing else. -/
theorem key_of_sidebarOp? (hfree : d.overlay = none) (hmenu : d.menu = none)
    (hfocus : d.workspace.focus = .sidebar) (hk : k.sidebarOp? = some op) :
    d.key o a k = { d with sidebar := d.sidebar.step op }.idle := by
  rcases Key.sidebarOp?_eq_some_iff.1 hk with ⟨rfl, hcode | hcode | hcode⟩ | ⟨δ, rfl, hδ⟩
  case inr =>
    rcases Key.stride?_eq_some_iff.1 hδ with ⟨rfl, hcode | hcode⟩ | ⟨rfl, hcode | hcode⟩ <;>
      simp [key, freeKey, sidebarKey, hcode, hfree, hmenu, hfocus, Sidebar.step]
  all_goals simp [key, freeKey, sidebarKey, hcode, hfree, hmenu, hfocus, Sidebar.step]

/-- Keys that are for the sidebar alone change nothing else. -/
theorem play_typed_of_sidebar (hfree : d.overlay = none) (hmenu : d.menu = none)
    (hfocus : d.workspace.focus = .sidebar) (hks : ks.map Key.sidebarOp? = ops.map some) :
    play o d (typed a ks) = { d with sidebar := d.sidebar.after ops }.idle :=
  play_typed_foldl (f := fun s ↦ { d with sidebar := s })
    (fun s _ _ hk ↦ key_of_sidebarOp? (d := { d with sidebar := s }) hfree hmenu hfocus hk)
    d.sidebar hks

/-- The enter key activates the entry under the cursor. -/
theorem key_enter_of_sidebar (hfree : d.overlay = none) (hmenu : d.menu = none)
    (hfocus : d.workspace.focus = .sidebar) (hk : k.code = .enter) :
    d.key o a k = d.activateEntry o a := by
  simp [key, freeKey, sidebarKey, hk, hfree, hmenu, hfocus]

end Desk

end PitchDesk
