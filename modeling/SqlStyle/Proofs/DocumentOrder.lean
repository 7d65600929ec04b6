import Mathlib.Data.List.Basic
import SqlStyle.Proofs.Attribution

/-! # Document order

A walk works off a list of pending nodes. What it comes to is the recursive order: a node, then the
walk of each of its children. Equal trees can stand at several places of a tree, so nodes are told
apart by the path of child numbers that leads to them: the walk meets every path once (`mem_paths`),
in lexicographic order (`paths_pairwise`), and a path comes after all that it extends. Searching
below a node finds the least path other than the empty one. -/

namespace SqlStyle.Node

/-! ## The recursive order -/

theorem preorderAll_eq_walks (nodes : List Node) : preorderAll nodes = nodes.flatMap walk := by
  induction nodes with
  | nil => rfl
  | cons n rest ih => rw [preorderAll, ih, List.flatMap_cons, walk_eq_preorder]

theorem walk_eq_cons (n : Node) : n.walk = n :: n.children.flatMap walk := by
  rw [walk_eq_preorder, preorder_eq, preorderAll_eq_walks]

/-! ## Paths -/

mutual

/-- The paths that lead to a node of a tree, in the order of its walk. -/
def paths : Node → List (List Nat)
  | mk _ _ _ _ _ children => [] :: pathsFrom 0 children

/-- The paths that lead to a node of several trees, which are numbered from `i` on. -/
def pathsFrom : Nat → List Node → List (List Nat)
  | _, [] => []
  | i, n :: rest => (paths n).map (i :: ·) ++ pathsFrom (i + 1) rest

end

theorem paths_eq (n : Node) : n.paths = [] :: pathsFrom 0 n.children := by
  cases n
  rw [paths, children]

theorem mem_pathsFrom {nodes : List Node} {path : List Nat} :
    ∀ {i : Nat}, path ∈ pathsFrom i nodes ↔
    ∃ k below n, nodes[k]? = some n ∧ path = (i + k) :: below ∧ below ∈ n.paths := by
  induction nodes with
  | nil => simp [pathsFrom]
  | cons n rest ih =>
    intro i
    rw [pathsFrom, List.mem_append, List.mem_map, ih]
    constructor
    · rintro (⟨below, hbelow, rfl⟩ | ⟨k, below, m, hm, rfl, hbelow⟩)
      · exact ⟨0, below, n, rfl, rfl, hbelow⟩
      · exact ⟨k + 1, below, m, hm, by rw [Nat.add_right_comm, Nat.add_assoc], hbelow⟩
    · rintro ⟨k, below, m, hm, rfl, hbelow⟩
      cases k with
      | zero =>
        cases hm
        exact .inl ⟨below, hbelow, rfl⟩
      | succ k => exact .inr ⟨k, below, m, hm, by rw [Nat.add_right_comm, Nat.add_assoc], hbelow⟩

/-- The paths of a tree are those that lead somewhere in it. -/
theorem mem_paths {path : List Nat} :
    ∀ {n : Node}, path ∈ n.paths ↔ ∃ m, descend children path n = some m := by
  induction path with
  | nil =>
    intro n
    rw [paths_eq]
    exact iff_of_true List.mem_cons_self ⟨n, rfl⟩
  | cons k below ih =>
    intro n
    rw [paths_eq, List.mem_cons, or_iff_right (List.cons_ne_nil _ _), mem_pathsFrom]
    constructor
    · rintro ⟨k', below', child, hchild, heq, hbelow⟩
      rw [Nat.zero_add] at heq
      cases heq
      obtain ⟨m, hm⟩ := ih.mp hbelow
      exact ⟨m, descend_cons.mpr ⟨child, hchild, hm⟩⟩
    · rintro ⟨m, hm⟩
      obtain ⟨child, hchild, hm⟩ := descend_cons.mp hm
      exact ⟨k, below, child, hchild, by rw [Nat.zero_add], ih.mpr ⟨m, hm⟩⟩

mutual

/-- Paths come in lexicographic order. -/
theorem paths_pairwise : ∀ n : Node, n.paths.Pairwise (· < ·)
  | mk _ _ _ _ _ children => by
    rw [paths]
    refine List.pairwise_cons.mpr ⟨?_, pathsFrom_pairwise 0 children⟩
    intro path hpath
    obtain ⟨k, below, n, -, rfl, -⟩ := mem_pathsFrom.mp hpath
    exact List.nil_lt_cons _ _

theorem pathsFrom_pairwise : ∀ (i : Nat) (nodes : List Node), (pathsFrom i nodes).Pairwise (· < ·)
  | _, [] => List.Pairwise.nil
  | i, n :: rest => by
    rw [pathsFrom]
    refine List.pairwise_append.mpr ⟨?_, pathsFrom_pairwise (i + 1) rest, ?_⟩
    · refine List.pairwise_map.mpr ((paths_pairwise n).imp ?_)
      intro a b hab
      exact List.cons_lt_cons_iff.mpr (.inr ⟨rfl, hab⟩)
    · intro a ha b hb
      obtain ⟨below, -, rfl⟩ := List.mem_map.mp ha
      obtain ⟨k, below', m, -, rfl, -⟩ := mem_pathsFrom.mp hb
      exact List.cons_lt_cons_iff.mpr (.inl (by omega))

end

mutual

/-- The nodes that the paths lead to are those of the walk, one by one. -/
theorem map_descend_paths : ∀ n : Node, n.paths.map (descend children · n) = n.preorder.map some
  | mk kind name aliasName start stop nodes => by
    rw [paths, preorder, List.map_cons, List.map_cons]
    exact congrArg (_ :: ·) (map_descend_pathsFrom nodes [] rfl)

theorem map_descend_pathsFrom {top : Node} :
    ∀ (nodes before : List Node), top.children = before ++ nodes →
    (pathsFrom before.length nodes).map (descend children · top) = (preorderAll nodes).map some
  | [], _, _ => rfl
  | n :: rest, before, h => by
    have hchild : top.children[before.length]? = some n := by
      rw [h, List.getElem?_append_right (Nat.le_refl _), Nat.sub_self]
      rfl
    have hbelow : ∀ below, descend children (before.length :: below) top =
        descend children below n := by
      intro below
      rw [descend, hchild, Option.bind_some]
    have hrest := @map_descend_pathsFrom top rest (before ++ [n])
      (by rw [h, List.append_assoc]; rfl)
    rw [List.length_append, List.length_singleton] at hrest
    rw [pathsFrom, preorderAll, List.map_append, List.map_append, List.map_map, hrest,
      ← map_descend_paths n]
    congr 1
    exact List.map_congr_left fun below _ => hbelow below

end

theorem getElem?_walk (n : Node) (i : Nat) :
    n.walk[i]? = n.paths[i]?.bind (descend children · n) := by
  have h := congrArg (·[i]?) (map_descend_paths n)
  simp only [List.getElem?_map, ← walk_eq_preorder] at h
  cases hpath : n.paths[i]? with
  | none =>
    rw [hpath] at h
    exact Option.map_eq_none_iff.mp h.symm
  | some path =>
    rw [hpath] at h
    obtain ⟨m, hm, hdescend⟩ := Option.map_eq_some_iff.mp h.symm
    rw [hm]
    exact hdescend

theorem exists_path {n m : Node} {i : Nat} (h : n.walk[i]? = some m) :
    ∃ path, n.paths[i]? = some path ∧ descend children path n = some m :=
  Option.bind_eq_some_iff.mp ((getElem?_walk n i).symm.trans h)

/-- The walk meets paths in their order. -/
theorem index_lt_iff {n : Node} {i j : Nat} {a b : List Nat} (ha : n.paths[i]? = some a)
    (hb : n.paths[j]? = some b) : i < j ↔ a < b := by
  have hmono : ∀ {i j : Nat} {a b : List Nat}, n.paths[i]? = some a → n.paths[j]? = some b →
      i < j → a < b := by
    intro i j a b ha hb hij
    obtain ⟨hi, rfl⟩ := List.getElem?_eq_some_iff.mp ha
    obtain ⟨hj, rfl⟩ := List.getElem?_eq_some_iff.mp hb
    exact List.pairwise_iff_getElem.mp (paths_pairwise n) i j hi hj hij
  refine ⟨hmono ha hb, fun hab => ?_⟩
  rcases Nat.lt_trichotomy i j with hij | rfl | hji
  · exact hij
  · cases ha.symm.trans hb
    exact absurd hab (List.lt_irrefl _)
  · exact absurd (hmono hb ha hji) (List.lt_asymm hab)

/-- What is above a node comes before it. -/
theorem index_lt_of_prefix {n : Node} {i j : Nat} {a b : List Nat} (ha : n.paths[i]? = some a)
    (hb : n.paths[j]? = some b) (habove : a <+: b) (hne : a ≠ b) : i < j := by
  rcases Nat.lt_trichotomy i j with hij | rfl | hji
  · exact hij
  · exact absurd (Option.some.inj (ha.symm.trans hb)) hne
  · exact absurd ((index_lt_iff hb ha).mp hji) (List.not_lt.mpr habove.le)

/-! ## Searching below a node -/

/-- A path leads below a node, to one of the kind. -/
def KindBelow (n : Node) (kind : Kind) (path : List Nat) : Prop :=
  path ≠ [] ∧ ∃ m, descend children path n = some m ∧ m.kind = kind

/-- The first such path. -/
def FirstBelow (n : Node) (kind : Kind) (path : List Nat) : Prop :=
  n.KindBelow kind path ∧ ∀ other, other < path → ¬ n.KindBelow kind other

theorem kindBelow_iff {n : Node} {kind : Kind} {path : List Nat} :
    n.KindBelow kind path ↔ ∃ i m, n.paths[i + 1]? = some path ∧ n.walk[i + 1]? = some m ∧
        m.kind = kind := by
  constructor
  · rintro ⟨hne, m, hm, hkind⟩
    obtain ⟨i, hi⟩ := List.getElem?_of_mem (mem_paths.mpr ⟨m, hm⟩)
    cases i with
    | zero =>
      rw [paths_eq] at hi
      exact absurd (Option.some.inj hi).symm hne
    | succ i =>
      refine ⟨i, m, hi, ?_, hkind⟩
      rw [getElem?_walk, hi, Option.bind_some, hm]
  · rintro ⟨i, m, hi, hm, hkind⟩
    rw [getElem?_walk, hi, Option.bind_some] at hm
    refine ⟨?_, m, hm, hkind⟩
    rintro rfl
    have hroot : n.paths[0]? = some [] := by
      rw [paths_eq]
      rfl
    exact absurd ((index_lt_iff hroot hi).mp (Nat.succ_pos i)) (List.lt_irrefl [])

theorem getElem?_below (n : Node) (i : Nat) : (n.walk.drop 1)[i]? = n.walk[i + 1]? := by
  rw [List.getElem?_drop, Nat.add_comm]

/-- The number that a search gives counts the first path to a node of the kind. -/
theorem findIndex?_eq_some {n : Node} {kind : Kind} {i : Nat} :
    n.findIndex? kind = some i ↔ ∃ path, n.FirstBelow kind path ∧ n.paths[i]? = some path := by
  unfold findIndex?
  simp only [Option.map_eq_some_iff, List.findIdx?_eq_some_iff_getElem, beq_iff_eq]
  constructor
  · rintro ⟨k, ⟨hk, hkind, hbefore⟩, rfl⟩
    have hwalk : n.walk[k + 1]? = some (n.walk.drop 1)[k] := by
      rw [← getElem?_below, List.getElem?_eq_getElem hk]
    obtain ⟨path, hpath, -⟩ := exists_path hwalk
    refine ⟨path, ⟨kindBelow_iff.mpr ⟨k, _, hpath, hwalk, hkind⟩, ?_⟩, hpath⟩
    intro other hlt hother
    obtain ⟨j, m, hj, hm, hmkind⟩ := kindBelow_iff.mp hother
    have hjk := Nat.lt_of_succ_lt_succ ((index_lt_iff hj hpath).mpr hlt)
    refine hbefore j hjk ?_
    rw [(List.getElem?_eq_some_iff.mp ((getElem?_below n j).trans hm)).2, hmkind]
  · rintro ⟨path, ⟨hpath, hfirst⟩, hi⟩
    obtain ⟨k, m, hk, hm, hkind⟩ := kindBelow_iff.mp hpath
    have hik : k + 1 = i := by
      rcases Nat.lt_trichotomy (k + 1) i with hlt | heq | hlt
      · exact absurd ((index_lt_iff hk hi).mp hlt) (List.lt_irrefl path)
      · exact heq
      · exact absurd ((index_lt_iff hi hk).mp hlt) (List.lt_irrefl path)
    refine ⟨k, ?_, hik⟩
    obtain ⟨hlt, rfl⟩ := List.getElem?_eq_some_iff.mp ((getElem?_below n k).trans hm)
    refine ⟨hlt, hkind, ?_⟩
    intro j hj hjkind
    have hwalk : n.walk[j + 1]? = some (n.walk.drop 1)[j] := by
      rw [← getElem?_below, List.getElem?_eq_getElem (Nat.lt_trans hj hlt)]
    obtain ⟨other, hother, -⟩ := exists_path hwalk
    exact hfirst other ((index_lt_iff hother hk).mp (Nat.succ_lt_succ hj))
      (kindBelow_iff.mpr ⟨j, _, hother, hwalk, hjkind⟩)

theorem find?_eq_bind (n : Node) (kind : Kind) :
    n.find? kind = (n.findIndex? kind).bind (n.walk[·]?) := by
  rw [find?, findIndex?, List.find?_eq_bind_findIdx?_getElem?, Option.bind_map]
  refine Option.bind_congr fun k _ => ?_
  exact getElem?_below n k

theorem find?_eq_some {n m : Node} {kind : Kind} :
    n.find? kind = some m ↔ ∃ path, n.FirstBelow kind path ∧ descend children path n = some m := by
  rw [find?_eq_bind, Option.bind_eq_some_iff]
  constructor
  · rintro ⟨i, hi, hm⟩
    obtain ⟨path, hfirst, hpath⟩ := findIndex?_eq_some.mp hi
    rw [getElem?_walk, hpath, Option.bind_some] at hm
    exact ⟨path, hfirst, hm⟩
  · rintro ⟨path, hfirst, hm⟩
    obtain ⟨i, hi⟩ := List.getElem?_of_mem (mem_paths.mpr ⟨m, hm⟩)
    refine ⟨i, findIndex?_eq_some.mpr ⟨path, hfirst, hi⟩, ?_⟩
    rw [getElem?_walk, hi, Option.bind_some, hm]

theorem find?_eq_none {n : Node} {kind : Kind} :
    n.find? kind = none ↔ ∀ path, ¬ n.KindBelow kind path := by
  rw [find?, List.find?_eq_none]
  constructor
  · intro h path hpath
    obtain ⟨i, m, -, hm, hkind⟩ := kindBelow_iff.mp hpath
    rw [← getElem?_below] at hm
    exact h m (List.mem_of_getElem? hm) (beq_iff_eq.mpr hkind)
  · intro h m hm hkind
    obtain ⟨i, hi⟩ := List.getElem?_of_mem hm
    rw [getElem?_below] at hi
    obtain ⟨path, hpath, -⟩ := exists_path hi
    exact h path (kindBelow_iff.mpr ⟨i, m, hpath, hi, beq_iff_eq.mp hkind⟩)

/-- **A walk is the pre-order.** What a worklist still gives are the walks of its entries, one after
the other. So the walk of a node gives the node and then the walk of each child: every path of the
tree once, and each one before those that extend it. A search for a kind gives the first node of the
kind in this order other than the node itself, and nothing just if there is no node of the kind
below. -/
theorem walk_documentOrder (n : Node) :
    (∀ pending, (visitsFrom pending).map Visit.node = (pending.map Visit.node).flatMap walk) ∧
    n.walk = n :: n.children.flatMap walk ∧
    n.walk.map some = n.paths.map (descend children · n) ∧
    (∀ path, path ∈ n.paths ↔ ∃ m, descend children path n = some m) ∧ n.paths.Nodup ∧
    n.paths.Pairwise (· < ·) ∧
    (∀ (i j : Nat) a b, n.paths[i]? = some a → n.paths[j]? = some b → a <+: b → a ≠ b → i < j) ∧
    ∀ kind,
      (∀ m, n.find? kind = some m ↔
        ∃ path, n.FirstBelow kind path ∧ descend children path n = some m) ∧
      (∀ i, n.findIndex? kind = some i ↔ ∃ path, n.FirstBelow kind path ∧ n.paths[i]? = some path) ∧
      (n.find? kind = none ↔ ∀ path, ¬ n.KindBelow kind path) := by
  refine ⟨?_, walk_eq_cons n, ?_, fun _ => mem_paths, ?_, paths_pairwise n,
    fun i j a b => index_lt_of_prefix,
    fun kind => ⟨fun _ => find?_eq_some, fun _ => findIndex?_eq_some, find?_eq_none⟩⟩
  · intro pending
    rw [map_node_visitsFrom, preorderAll_eq_walks]
  · rw [walk_eq_preorder, map_descend_paths]
  · refine (paths_pairwise n).imp ?_
    rintro a _ hlt rfl
    exact List.lt_irrefl a hlt

end SqlStyle.Node
