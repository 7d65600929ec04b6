import Mathlib.Data.List.Nodup
import SqlStyle.Proofs.Attribution

/-! # The tree of an expression

The tree built for an expression is the expression tree itself, cut at depth 101: every expression
down to there has a node at the same path, and nothing else has. Each node spans exactly what was
claimed in its tree, so ranges nest. The children of an expression are read off its arguments key by
key, in an order of keys put together from three lists; with no key twice that order misses no
argument and repeats none (`children_perm`). -/

namespace SqlStyle.Grammar

/-! ## Children and arguments -/

/-- No argument has the same name as another, and the class declares none twice. -/
structure Expr.NamesOnce (e : Expr) : Prop where
  args : (e.args.map Prod.fst).Nodup
  keys : e.cls.keys.Nodup

namespace Expr

theorem writtenFirst_nodup (name : String) : (writtenFirst name).Nodup := by
  unfold writtenFirst
  split <;> decide

theorem mem_writtenKeys {e : Expr} {key : String} (h : key ∈ e.args.map Prod.fst) :
    key ∈ e.writtenKeys := by
  unfold writtenKeys
  simp only [List.mem_append, List.mem_filter, Bool.not_eq_true', List.contains_eq_mem,
    decide_eq_false_iff_not]
  tauto

theorem writtenKeys_nodup {e : Expr} (h : e.NamesOnce) : e.writtenKeys.Nodup := by
  unfold writtenKeys
  have hdisjoint : ∀ declared more : List String,
      declared.Disjoint (more.filter (!declared.contains ·)) := by
    intro declared more key hkey hmore
    simpa [hkey] using (List.mem_filter.mp hmore).2
  have hdeclared := (writtenFirst_nodup e.cls.name).append (h.keys.filter _) (hdisjoint _ _)
  exact hdeclared.append (h.args.filter _) (hdisjoint _ _)

theorem lookup_of_nodup {args : List (String × Value)} (h : (args.map Prod.fst).Nodup)
    {arg : String × Value} (hm : arg ∈ args) : args.lookup arg.1 = some arg.2 := by
  induction args with
  | nil => cases hm
  | cons first rest ih =>
    obtain ⟨hfirst, hrest⟩ := List.nodup_cons.mp h
    rcases List.mem_cons.mp hm with rfl | hm
    · exact List.lookup_cons_self
    · have hne : arg.1 ≠ first.1 := by
        intro heq
        exact hfirst (heq ▸ List.mem_map_of_mem hm)
      rw [List.lookup_cons, beq_false_of_ne hne]
      exact ih hrest hm

theorem exprs_of_not_mem {e : Expr} {key : String} (h : key ∉ e.args.map Prod.fst) :
    (e.arg key).exprs = [] := by
  have hnone : e.args.lookup key = none := by
    refine List.lookup_eq_none_iff.mpr ?_
    intro arg hm
    refine bne_iff_ne.mpr ?_
    rintro rfl
    exact h (List.mem_map_of_mem hm)
  rw [arg, hnone]
  rfl

/-- Keys without an argument contribute no child. -/
theorem flatMap_exprs_eq (e : Expr) (keys : List String) :
    keys.flatMap (fun key => (e.arg key).exprs) =
      (keys.filter (· ∈ e.args.map Prod.fst)).flatMap fun key => (e.arg key).exprs := by
  induction keys with
  | nil => rfl
  | cons key rest ih =>
    by_cases hm : key ∈ e.args.map Prod.fst
    · rw [List.filter_cons_of_pos (by simpa using hm), List.flatMap_cons, List.flatMap_cons, ih]
    · rw [List.filter_cons_of_neg (by simpa using hm), List.flatMap_cons, exprs_of_not_mem hm, ih,
        List.nil_append]

/-- The children of an expression are the expressions among its arguments, each as often as it
occurs there. -/
theorem children_perm {e : Expr} (h : e.NamesOnce) :
    e.children.Perm (e.args.flatMap fun arg => arg.2.exprs) := by
  have hnames : (e.writtenKeys.filter (· ∈ e.args.map Prod.fst)).Perm (e.args.map Prod.fst) := by
    refine (List.perm_ext_iff_of_nodup ((writtenKeys_nodup h).filter _) h.args).mpr ?_
    intro key
    rw [List.mem_filter, decide_eq_true_eq]
    exact ⟨fun hm => hm.2, fun hm => ⟨mem_writtenKeys hm, hm⟩⟩
  have hargs : (e.args.map Prod.fst).flatMap (fun key => (e.arg key).exprs) =
      e.args.flatMap fun arg => arg.2.exprs := by
    rw [List.flatMap_map]
    refine List.flatMap_congr ?_
    intro arg hm
    rw [Expr.arg, lookup_of_nodup h.args hm, Option.getD_some]
  rw [children, flatMap_exprs_eq, ← hargs]
  exact hnames.flatMap_right _

/-! ## Expressions without a tree -/

theorem fault?_succ_eq_none {levels : Nat} {e : Expr} :
    e.fault? (levels + 1) = none ↔
      e.nameFault? = none ∧ e.claimFault? = none ∧
          ∀ child ∈ e.children, child.fault? levels = none := by
  rw [fault?, Option.or_eq_none_iff, Option.or_eq_none_iff, List.findSome?_eq_none_iff, and_assoc]

/-- No fault is met just if every expression down to the cut can be named, and every one above it
looked for. -/
theorem fault?_eq_none_iff (levels : Nat) : ∀ e : Expr, e.fault? levels = none ↔
    ∀ path x, descend children path e = some x →
      (path.length ≤ levels → x.nameFault? = none) ∧
          (path.length < levels → x.claimFault? = none) := by
  induction levels with
  | zero =>
    intro e
    constructor
    · intro h path x hx
      refine ⟨?_, fun hlt => absurd hlt (Nat.not_lt_zero _)⟩
      intro hlen
      obtain rfl := List.length_eq_zero_iff.mp (Nat.le_zero.mp hlen)
      cases hx
      exact h
    · intro h
      exact (h [] e rfl).1 (Nat.le_refl 0)
  | succ levels ih =>
    intro e
    rw [fault?_succ_eq_none]
    constructor
    · rintro ⟨hname, hclaim, hchildren⟩ path x hx
      cases path with
      | nil => cases hx; exact ⟨fun _ => hname, fun _ => hclaim⟩
      | cons i path =>
        obtain ⟨child, hchild, hx⟩ := descend_cons.mp hx
        obtain ⟨h1, h2⟩ := (ih child).mp (hchildren child (List.mem_of_getElem? hchild)) path x hx
        exact ⟨fun hlen => h1 (Nat.le_of_succ_le_succ hlen), fun hlen =>
          h2 (Nat.lt_of_succ_lt_succ hlen)⟩
    · intro h
      obtain ⟨hname, hclaim⟩ := h [] e rfl
      refine ⟨hname (Nat.zero_le _), hclaim (Nat.succ_pos _), ?_⟩
      intro child hm
      obtain ⟨i, hi⟩ := List.getElem?_of_mem hm
      refine (ih child).mpr ?_
      intro path x hx
      obtain ⟨h1, h2⟩ := h (i :: path) x (descend_cons.mpr ⟨child, hi, hx⟩)
      exact ⟨fun hlen => h1 (Nat.succ_le_succ hlen), fun hlen => h2 (Nat.succ_lt_succ hlen)⟩

theorem toNode_ok_iff (e : Expr) (lexemes : List Lexeme) :
    (∃ n, e.toNode lexemes = .ok n) ↔ e.fault? maxLevels = none := by
  unfold toNode
  cases e.fault? maxLevels <;> simp

end Expr

/-! ## Paths -/

theorem Attribution.descend_claims {path : List Nat} :
    ∀ {a b : Attribution}, descend Attribution.parts path a = some b → b.claims ⊆ a.claims := by
  induction path with
  | nil => intro a b h; cases h; exact List.Subset.refl _
  | cons i path ih =>
    intro a b h
    obtain ⟨part, hpart, h⟩ := descend_cons.mp h
    exact List.Subset.trans (ih h) (Attribution.claims_part_subset (List.mem_of_getElem? hpart))

namespace Mirrors

theorem getElem? {levels : Nat} {nodes : List Node} {parts : List Attribution}
    (h : List.Forall₂ (Mirrors levels) nodes parts) {i : Nat} {n : Node} (hn : nodes[i]? = some n) :
    ∃ a, parts[i]? = some a ∧ Mirrors levels n a := by
  obtain ⟨hi, rfl⟩ := List.getElem?_eq_some_iff.mp hn
  have hi' : i < parts.length := h.length_eq ▸ hi
  exact ⟨parts[i], List.getElem?_eq_getElem hi', h.get hi hi'⟩

/-- A path in the built tree leads to the same place in the attribution, and is not longer than the
tree is deep. -/
theorem descend {path : List Nat} :
    ∀ {levels : Nat} {n m : Node} {a : Attribution}, Mirrors levels n a →
    descend Node.children path n = some m →
    ∃ b, descend Attribution.parts path a = some b ∧ path.length ≤ levels ∧
      Mirrors (levels - path.length) m b ∧ descend Expr.children path a.expr = some b.expr := by
  induction path with
  | nil =>
    intro levels n m a h hm
    cases hm
    exact ⟨a, rfl, Nat.zero_le _, h, rfl⟩
  | cons i path ih =>
    intro levels n m a h hm
    obtain ⟨child, hchild, hm⟩ := descend_cons.mp hm
    cases levels with
    | zero => rw [h.2.1] at hchild; cases hchild
    | succ levels =>
      obtain ⟨_, hexprs, hparts⟩ := h
      obtain ⟨part, hpart, hmirrors⟩ := getElem? hparts hchild
      obtain ⟨b, hb, hlen, hbm, hbe⟩ := ih hmirrors hm
      have hexpr : a.expr.children[i]? = some part.expr := by
        rw [← hexprs, List.getElem?_map, hpart]; rfl
      refine ⟨b, descend_cons.mpr ⟨part, hpart, hb⟩, Nat.succ_le_succ hlen, ?_,
        descend_cons.mpr ⟨part.expr, hexpr, hbe⟩⟩
      rwa [List.length_cons, Nat.succ_sub_succ]

/-- Every expression down to the cut has a node at its path. -/
theorem exists_node {path : List Nat} : ∀ {levels : Nat} {n : Node} {a : Attribution} {x : Expr},
    Mirrors levels n a → SqlStyle.descend Expr.children path a.expr = some x →
      path.length ≤ levels →
    ∃ m, SqlStyle.descend Node.children path n = some m := by
  induction path with
  | nil => intro levels n a x _ _ _; exact ⟨n, rfl⟩
  | cons i path ih =>
    intro levels n a x h hx hlen
    obtain ⟨child, hchild, hx⟩ := descend_cons.mp hx
    cases levels with
    | zero => exact absurd hlen (Nat.not_succ_le_zero _)
    | succ levels =>
      obtain ⟨_, hexprs, hparts⟩ := h
      rw [← hexprs, List.getElem?_map] at hchild
      obtain ⟨part, hpart, rfl⟩ := Option.map_eq_some_iff.mp hchild
      obtain ⟨hi, rfl⟩ := List.getElem?_eq_some_iff.mp hpart
      have hi' := hparts.length_eq ▸ hi
      obtain ⟨m, hm⟩ := ih (hparts.get hi' hi) hx (Nat.le_of_succ_le_succ hlen)
      exact ⟨m, descend_cons.mpr ⟨_, List.getElem?_eq_getElem hi', hm⟩⟩

end Mirrors

/-! ## The tree -/

/-- What the node at a depth has to do with the attribution of its expression. -/
structure NodeAt (depth : Nat) (n : Node) (a : Attribution) : Prop where
  depth_le : depth ≤ 101
  kind : n.kind = a.expr.kind
  name : n.name = a.expr.nodeName
  aliasName : n.aliasName = a.expr.nodeAlias
  /-- One child per child of the expression, in the same order. -/
  children : depth ≤ 100 → a.parts.map Attribution.expr = a.expr.children ∧
    n.children.length = a.expr.children.length
  /-- These are the expressions among the arguments, none lost and none twice. -/
  arguments : depth ≤ 100 → a.expr.NamesOnce →
    (a.parts.map Attribution.expr).Perm (a.expr.args.flatMap fun arg => arg.2.exprs)
  cut : depth = 101 → n.children = [] ∧ n.isPositioned = false
  positioned : n.isPositioned = true ↔ a.claims ≠ []
  start : n.isPositioned = true → IsLeast {x | ∃ l ∈ a.claims, l.start = x} n.start
  stop : n.isPositioned = true → IsGreatest {x | ∃ l ∈ a.claims, l.stop = x} n.stop
  nested : ∀ child ∈ n.children, child.isPositioned = true →
    n.isPositioned = true ∧ n.start ≤ child.start ∧ child.stop ≤ n.stop

theorem Hull.isPositioned_iff {n : Node} {claimed : List Lexeme} (h : Hull claimed n.start n.stop)
    (hproper : ∀ l ∈ claimed, l.Proper) : n.isPositioned = true ↔ claimed ≠ [] := by
  constructor
  · rintro hp rfl
    rw [Node.isPositioned, (h.none rfl).1] at hp
    cases hp
  · intro hne
    exact decide_eq_true (h.bounds hproper hne).1

theorem Mirrors.nodeAt {depth : Nat} (hdepth : depth ≤ 101) {n : Node} {a : Attribution}
    (h : Mirrors (101 - depth) n a) (hproper : ∀ l ∈ a.claims, l.Proper) : NodeAt depth n a := by
  obtain ⟨hkind, hname, halias, hhull⟩ := h.stands
  have hpos := hhull.isPositioned_iff hproper
  -- at the cut there is nothing below, and above it the level still has its children
  rcases Nat.eq_or_lt_of_le hdepth with rfl | hlt
  · obtain ⟨_, hchildren, _, hclaims⟩ := h
    have hno : n.isPositioned = false := by
      rw [Bool.eq_false_iff]
      exact fun hp => hpos.mp hp hclaims
    refine ⟨hdepth, hkind, hname, halias, by omega, by omega, fun _ => ⟨hchildren, hno⟩,
      hpos, ?_, ?_, ?_⟩
    · exact fun hp => hhull.least (hpos.mp hp)
    · exact fun hp => hhull.greatest (hpos.mp hp)
    · rw [hchildren]
      exact fun child hm => absurd hm List.not_mem_nil
  · obtain ⟨levels, hlevels⟩ : ∃ levels, 101 - depth = levels + 1 := ⟨100 - depth, by omega⟩
    rw [hlevels] at h
    obtain ⟨_, hexprs, hparts⟩ := h
    have hlength : n.children.length = a.expr.children.length := by
      rw [← hexprs, List.length_map, hparts.length_eq]
    refine ⟨hdepth, hkind, hname, halias, fun _ => ⟨hexprs, hlength⟩, ?_, by omega,
      hpos, ?_, ?_, ?_⟩
    · intro _ hnames
      rw [hexprs]
      exact Expr.children_perm hnames
    · exact fun hp => hhull.least (hpos.mp hp)
    · exact fun hp => hhull.greatest (hpos.mp hp)
    · intro child hm hchild
      obtain ⟨i, hi⟩ := List.getElem?_of_mem hm
      obtain ⟨part, hpart, hmirrors⟩ := Mirrors.getElem? hparts hi
      have hsub := Attribution.claims_part_subset (List.mem_of_getElem? hpart)
      have hpart := hmirrors.stands.hull
      have hne := (hpart.isPositioned_iff fun l hl => hproper l (hsub hl)).mp hchild
      refine ⟨hpos.mpr ?_, hhull.inside hpart hsub hne⟩
      exact fun hnil => hne (List.subset_nil.mp (hnil ▸ hsub))

/-- Lexemes in source order lie between the start of the first and the end of the last. -/
theorem run_bounds {lexemes : List Lexeme}
    (h : lexemes.Pairwise fun a b => a.start ≤ b.start ∧ a.last ≤ b.last) :
    ∀ l ∈ lexemes, runStart lexemes ≤ l.start ∧ l.stop ≤ runStop lexemes := by
  intro l hl
  constructor
  · cases lexemes with
    | nil => cases hl
    | cons first rest =>
      rcases List.mem_cons.mp hl with rfl | hl
      · exact Int.le_refl _
      · exact ((List.pairwise_cons.mp h).1 l hl).1
  · obtain ⟨front, last, rfl⟩ :=
      (List.eq_nil_or_concat' lexemes).resolve_left (List.ne_nil_of_mem hl)
    simp only [runStop, List.getLast?_concat, Option.map_some, Option.getD_some, Lexeme.stop]
    rcases List.mem_append.mp hl with hl | hl
    · have := ((List.pairwise_append.mp h).2.2 l hl last List.mem_cons_self).2
      omega
    · rw [List.mem_singleton.mp hl]

/-- **The tree of an expression.** It exists just if every expression down to depth 101 can be named
and every one above that depth looked for. Then the expressions down to depth 101 and the nodes of
the tree stand at the same paths. A node has one child per expression among the arguments, in
written order, except at depth 101, where there are neither children nor a range. A node has a range
just if a lexeme was claimed in its tree, from the least start to the greatest end claimed there, so
ranges nest; and they lie in the statement if its lexemes are in order. -/
theorem toNode_hulls (e : Expr) (lexemes : List Lexeme)
    (hlexemes : ∀ l ∈ lexemes, 0 ≤ l.start ∧ l.start ≤ l.last) :
    ((∃ n, e.toNode lexemes = .ok n) ↔
      ∀ path x, descend Expr.children path e = some x →
        (path.length ≤ 101 → x.nameFault? = none) ∧ (path.length ≤ 100 → x.claimFault? = none)) ∧
    ∀ n, e.toNode lexemes = .ok n →
      (∀ path x, descend Expr.children path e = some x → path.length ≤ 101 →
        ∃ m, descend Node.children path n = some m) ∧
      ∀ path m, descend Node.children path n = some m →
        ∃ a, descend Attribution.parts path (e.attribution lexemes) = some a ∧
          descend Expr.children path e = some a.expr ∧ NodeAt path.length m a ∧ a.claims ⊆ lexemes ∧
          (lexemes.Pairwise (fun a b => a.start ≤ b.start ∧ a.last ≤ b.last) →
            m.isPositioned = true →
            runStart lexemes ≤ m.start ∧ m.stop ≤ runStop lexemes) := by
  constructor
  · have hfault := Expr.fault?_eq_none_iff maxLevels e
    simp only [maxLevels, Nat.lt_succ_iff] at hfault
    rw [← hfault]
    exact e.toNode_ok_iff lexemes
  · intro n hn
    obtain ⟨-, hexpr, hmirrors, hclaims, -⟩ := buildNode_agree maxLevels e lexemes hlexemes
    have hroot : n = (buildNode maxLevels e lexemes).1 := by
      unfold Expr.toNode at hn
      split at hn
      · cases hn
      · cases hn; rfl
    have hexpr : (e.attribution lexemes).expr = e := List.singleton_inj.mp hexpr
    have hmirrors : Mirrors 101 n (e.attribution lexemes) :=
      hroot ▸ (List.forall₂_cons.mp hmirrors).1
    have hclaims : (e.attribution lexemes).claims ⊆ lexemes := by
      rwa [Attribution.claimsAll, Attribution.claimsAll, List.append_nil] at hclaims
    refine ⟨?_, ?_⟩
    · intro path x hx hlen
      exact hmirrors.exists_node (hexpr.symm ▸ hx) hlen
    · intro path m hm
      obtain ⟨a, ha, hlen, hma, hae⟩ := hmirrors.descend hm
      have hsub := List.Subset.trans (Attribution.descend_claims ha) hclaims
      have hnode := hma.nodeAt hlen fun l hl => hlexemes l (hsub hl)
      refine ⟨a, ha, hexpr ▸ hae, hnode, hsub, ?_⟩
      intro horder hp
      obtain ⟨l, hl, hstart⟩ := (hnode.start hp).1
      obtain ⟨k, hk, hstop⟩ := (hnode.stop hp).1
      rw [← hstart, ← hstop]
      exact ⟨(run_bounds horder l (hsub hl)).1, (run_bounds horder k (hsub hk)).2⟩

/-- A column with its table: the arguments come in the other order, and both names claim their own
lexeme. -/
theorem toNode_hulls_column :
    let name (s : String) : Expr :=
      .mk ⟨"Identifier", ["this"], [.identifier]⟩ [("this", .text s)] [(.name, .text s)]
    let e : Expr := .mk ⟨"Column", ["this", "table"], []⟩
      [("this", .expr (name "a")), ("table", .expr (name "t"))] [(.name, .text "a")]
    let lexemes : List Lexeme :=
      [⟨"VAR", "t", 1, 1, 0, 0⟩, ⟨"DOT", ".", 1, 2, 1, 1⟩, ⟨"VAR", "a", 1, 3, 2, 2⟩]
    (∀ l ∈ lexemes, 0 ≤ l.start ∧ l.start ≤ l.last) ∧ e.NamesOnce ∧
    ∃ n a, e.toNode lexemes = .ok n ∧ NodeAt 0 n a ∧ a.expr = e ∧
      (a.parts.map Attribution.expr).Perm [name "a", name "t"] ∧
      (n.start, n.stop) = (0, 3) ∧ n.children.map (fun c => (c.name, c.start, c.stop)) =
        [("t", 0, 1), ("a", 2, 3)] ∧
      runStart lexemes ≤ n.start ∧ n.stop ≤ runStop lexemes := by
  intro name e lexemes
  have hlexemes : ∀ l ∈ lexemes, 0 ≤ l.start ∧ l.start ≤ l.last := by decide
  have hnames : e.NamesOnce := ⟨by decide, by decide⟩
  have hfault : e.fault? maxLevels = none := Option.isNone_iff_eq_none.mp (by decide +kernel)
  obtain ⟨n, hn, hrange, hchildren⟩ : ∃ n, e.toNode lexemes = .ok n ∧ (n.start, n.stop) = (0, 3) ∧
      n.children.map (fun c => (c.name, c.start, c.stop)) = [("t", 0, 1), ("a", 2, 3)] := by
    refine ⟨(buildNode maxLevels e lexemes).1, ?_, by decide +kernel, by decide +kernel⟩
    rw [Expr.toNode, hfault]
  obtain ⟨a, _, hexpr, hnode, _, hinside⟩ := ((toNode_hulls e lexemes hlexemes).2 n hn).2 [] n rfl
  have hexpr : a.expr = e := (Option.some.inj hexpr).symm
  have hstart : n.start = 0 := congrArg Prod.fst hrange
  have hparts := hnode.arguments (Nat.zero_le _) (hexpr.symm ▸ hnames)
  rw [hexpr] at hparts
  exact ⟨hlexemes, hnames, n, a, hn, hnode, hexpr, hparts, hrange, hchildren,
    hinside (by decide) (decide_eq_true (by omega))⟩

end SqlStyle.Grammar
