/-!
# Forests

Lists of trees with a label on each node, and the order in which a tree is walked: each node before
its children, and the children in order.

A tree is a node with a list of trees, so everything on trees is defined by two functions that call
each other, one for a tree and one for a list of them. `Forest` is the list, and what is used
elsewhere is stated for it.
-/

namespace PitchDesk

/-- A label with the trees below it. -/
inductive Tree (α : Type) where
  | node (label : α) (children : List (Tree α))
  deriving Repr

/-- Trees that stand beside each other. -/
abbrev Forest (α : Type) : Type := List (Tree α)

namespace Tree

variable {α β : Type}

/-- The label of the root. -/
def label : Tree α → α
  | .node a _ => a

/-- The trees below the root. -/
def children : Tree α → Forest α
  | .node _ ts => ts

/-- A tree is a group if something stands below its root. -/
def isGroup (t : Tree α) : Bool :=
  !t.children.isEmpty

mutual

/-- The labels of a tree, each node before its children. -/
def flatten : Tree α → List α
  | .node a ts => a :: flattenAll ts

/-- The labels of a forest, tree by tree. -/
def flattenAll : Forest α → List α
  | [] => []
  | t :: ts => flatten t ++ flattenAll ts

end

mutual

/-- The nodes of a tree with the number of nodes above each, each node before its children. -/
def withDepth (depth : Nat) : Tree α → List (Nat × Tree α)
  | .node a ts => (depth, .node a ts) :: withDepthAll (depth + 1) ts

/-- The nodes of a forest with the number of nodes above each, tree by tree. -/
def withDepthAll (depth : Nat) : Forest α → List (Nat × Tree α)
  | [] => []
  | t :: ts => withDepth depth t ++ withDepthAll depth ts

end

mutual

/-- Changes each label. -/
def map (f : α → β) : Tree α → Tree β
  | .node a ts => .node (f a) (mapAll f ts)

/-- Changes each label of a forest. -/
def mapAll (f : α → β) : Forest α → Forest β
  | [] => []
  | t :: ts => map f t :: mapAll f ts

end

end Tree

/-- The labels of a forest, each node before its children. -/
def Forest.flatten {α : Type} (ts : Forest α) : List α :=
  Tree.flattenAll ts

/-- The nodes of a forest with the number of nodes above each, each node before its children. -/
def Forest.withDepth {α : Type} (ts : Forest α) : List (Nat × Tree α) :=
  Tree.withDepthAll 0 ts

/-- Changes each label. -/
def Forest.map {α β : Type} (f : α → β) (ts : Forest α) : Forest β :=
  Tree.mapAll f ts

end PitchDesk
