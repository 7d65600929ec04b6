import SqlStyle.Tree.Kind

/-! # Syntax trees

A node has a kind, a name and an alias, both possibly empty, and the range of offsets it was parsed
from; a negative start means that nothing in the text could be attributed to it. `walk` lists the
nodes of a tree with a worklist, so that the depth of a tree costs no stack; it is the pre-order
`preorder`. -/

namespace SqlStyle

inductive Node where
  | mk (kind : Kind) (name aliasName : String) (start stop : Int) (children : List Node)

namespace Node

def kind : Node → Kind
  | mk kind _ _ _ _ _ => kind

def name : Node → String
  | mk _ name _ _ _ _ => name

def aliasName : Node → String
  | mk _ _ aliasName _ _ _ => aliasName

def start : Node → Int
  | mk _ _ _ start _ _ => start

/-- The offset just past the node. -/
def stop : Node → Int
  | mk _ _ _ _ stop _ => stop

def children : Node → List Node
  | mk _ _ _ _ _ children => children

/-- The node has a place in the text. -/
def isPositioned (n : Node) : Bool := decide (0 ≤ n.start)

mutual

/-- The number of nodes of a tree. -/
def count : Node → Nat
  | mk _ _ _ _ _ children => countAll children + 1

/-- The number of nodes of several trees. -/
def countAll : List Node → Nat
  | [] => 0
  | n :: rest => count n + countAll rest

end

theorem countAll_append (a b : List Node) : countAll (a ++ b) = countAll a + countAll b := by
  induction a with
  | nil => simp [countAll]
  | cons n rest ih => simp [countAll, ih]; omega

theorem count_eq (n : Node) : count n = countAll n.children + 1 := by
  cases n; simp [count, children]

/-- A node met on a walk: how deep it is, and the node above it. -/
structure Visit where
  depth : Nat
  parent : Option Node
  node : Node

/-- The visits of the children of a visited node. -/
def Visit.below (v : Visit) : List Visit :=
  v.node.children.map fun child => ⟨v.depth + 1, some v.node, child⟩

/-- The visits still to come from a worklist: its first entry, then what is below it, then the
others. -/
def visitsFrom (pending : List Visit) : List Visit :=
  match pending with
  | [] => []
  | v :: rest => v :: visitsFrom (v.below ++ rest)
termination_by countAll (pending.map Visit.node)
decreasing_by
  simp only [Visit.below, List.map_append, List.map_map, List.map_cons, countAll,
    countAll_append, count_eq]
  have : (v.node.children.map (Visit.node ∘ fun child =>
    (⟨v.depth + 1, some v.node, child⟩ : Visit))) =
      v.node.children := by simp [Function.comp_def]
  rw [this]
  omega

/-- Every node of a tree with its depth and parent, in document order. -/
def visits (n : Node) : List Visit := visitsFrom [⟨0, none, n⟩]

/-- Every node of a tree in document order. -/
def walk (n : Node) : List Node := n.visits.map Visit.node

/-- Where in the walk the first node of a kind below the root stands. -/
def findIndex? (n : Node) (kind : Kind) : Option Nat :=
  ((n.walk.drop 1).findIdx? (·.kind == kind)).map (· + 1)

/-- The first node of a kind below the root. -/
def find? (n : Node) (kind : Kind) : Option Node := (n.walk.drop 1).find? (·.kind == kind)

mutual

/-- The node, then the pre-order of each child. -/
def preorder : Node → List Node
  | mk kind name aliasName start stop children =>
    mk kind name aliasName start stop children :: preorderAll children

/-- The pre-orders of several trees, one after the other. -/
def preorderAll : List Node → List Node
  | [] => []
  | n :: rest => preorder n ++ preorderAll rest

end

theorem preorderAll_append (a b : List Node) :
    preorderAll (a ++ b) = preorderAll a ++ preorderAll b := by
  induction a with
  | nil => rfl
  | cons n rest ih => simp [preorderAll, ih]

theorem preorder_eq (n : Node) : preorder n = n :: preorderAll n.children := by
  cases n; simp [preorder, children]

/-- What a worklist still visits are the pre-orders of its entries. -/
theorem map_node_visitsFrom (pending : List Visit) :
    (visitsFrom pending).map Visit.node = preorderAll (pending.map Visit.node) := by
  fun_induction visitsFrom pending with
  | case1 => rfl
  | case2 v rest ih =>
    have hbelow : v.below.map Visit.node = v.node.children := by
      simp [Visit.below, Function.comp_def]
    rw [List.map_cons, ih, List.map_append, hbelow, preorderAll_append, List.map_cons,
      preorderAll, preorder_eq, List.cons_append]

theorem walk_eq_preorder (n : Node) : n.walk = n.preorder := by
  simp [walk, visits, map_node_visitsFrom, preorderAll]

end Node

/-- One statement of a document: its tree and the range of its tokens, without the closing
semicolon. -/
structure Statement where
  root : Node
  start : Int
  stop : Int

/-- The statement's nodes in document order, with depth and parent. -/
def Statement.visits (s : Statement) : List Node.Visit := s.root.visits

end SqlStyle
