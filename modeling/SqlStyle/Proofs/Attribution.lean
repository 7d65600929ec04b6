import Mathlib.Data.List.Forall2
import Mathlib.Data.List.Perm.Basic
import Mathlib.Order.Bounds.Basic
import SqlStyle.Proofs.Offsets.Grammar

/-! # Where the ranges of a tree come from

Building the tree of an expression forgets which lexeme was claimed where. `attributed` makes the
same claims and keeps them: an attribution is a tree of expressions, each with the lexeme it
claimed. The built tree mirrors it (`buildNode_agree`), node for expression down to the cut, and the
range of each node is the hull of the lexemes claimed at it and below. Nodes, expressions and
attributions are matched by the path of child numbers that leads to them. -/

namespace SqlStyle

/-- Where a path of child numbers leads in a tree. -/
def descend {α : Type} (children : α → List α) : List Nat → α → Option α
  | [], x => some x
  | i :: path, x => (children x)[i]?.bind (descend children path)

theorem descend_cons {α : Type} {children : α → List α} {i : Nat} {path : List Nat} {x y : α} :
    descend children (i :: path) x = some y ↔
      ∃ child, (children x)[i]? = some child ∧ descend children path child = some y :=
  Option.bind_eq_some_iff

namespace Grammar

/-- An expression with the lexeme it claimed, if any, and likewise for the expressions below it. -/
inductive Attribution where
  | mk (expr : Expr) (lexeme? : Option Lexeme) (parts : List Attribution)

namespace Attribution

def expr : Attribution → Expr
  | mk expr _ _ => expr

def parts : Attribution → List Attribution
  | mk _ _ parts => parts

mutual

/-- The lexemes claimed in a tree. -/
def claims : Attribution → List Lexeme
  | mk _ lexeme? parts => lexeme?.toList ++ claimsAll parts

/-- The lexemes claimed in several trees. -/
def claimsAll : List Attribution → List Lexeme
  | [] => []
  | a :: rest => claims a ++ claimsAll rest

end

theorem claims_subset_claimsAll {a : Attribution} {as : List Attribution} (h : a ∈ as) :
    a.claims ⊆ claimsAll as := by
  induction as with
  | nil => cases h
  | cons b rest ih =>
    rw [claimsAll]
    rcases List.mem_cons.mp h with rfl | h
    · exact List.subset_append_left _ _
    · exact List.subset_append_of_subset_right _ (ih h)

theorem claims_part_subset {a b : Attribution} (h : b ∈ a.parts) : b.claims ⊆ a.claims := by
  cases a with
  | mk e lexeme? parts =>
    rw [claims]
    exact List.subset_append_of_subset_right _ (claims_subset_claimsAll h)

end Attribution

/-- Attributes one expression after the other, each from the lexemes the ones before it left. -/
def attributedEach (attributed : Expr → List Lexeme → Attribution × List Lexeme) :
    List Expr → List Lexeme → List Attribution × List Lexeme
  | [], free => ([], free)
  | e :: rest, free =>
    let (a, free) := attributed e free
    let (as, free) := attributedEach attributed rest free
    (a :: as, free)

/-- Attributes `levels` levels of an expression. Below them nothing is claimed. -/
def attributed : Nat → Expr → List Lexeme → Attribution × List Lexeme
  | 0, e, free => (.mk e none [], free)
  | levels + 1, e, free =>
    let (own, free) := match e.claim? free with
      | some (l, free) => (some l, free)
      | none => (none, free)
    let (parts, free) := attributedEach (attributed levels) e.children free
    (.mk e own parts, free)

/-- The attribution of an expression over the lexemes of its statement. -/
def Expr.attribution (e : Expr) (lexemes : List Lexeme) : Attribution :=
  (attributed maxLevels e lexemes).1

/-! ## Hulls -/

/-- The lexeme has a place in the text. -/
def Lexeme.Proper (l : Lexeme) : Prop := 0 ≤ l.start ∧ l.start ≤ l.last

/-- The smallest range around some lexemes; there is none around no lexeme. -/
structure Hull (claimed : List Lexeme) (start stop : Int) : Prop where
  none : claimed = [] → start = -1 ∧ stop = -1
  least : claimed ≠ [] → IsLeast {x | ∃ l ∈ claimed, l.start = x} start
  greatest : claimed ≠ [] → IsGreatest {x | ∃ l ∈ claimed, l.stop = x} stop

theorem hull_nil : Hull [] (-1) (-1) :=
  ⟨fun _ => ⟨rfl, rfl⟩, fun h => absurd rfl h, fun h => absurd rfl h⟩

theorem hull_singleton (l : Lexeme) : Hull [l] l.start l.stop := by
  refine ⟨by simp, fun _ => ?_, fun _ => ?_⟩
  · simp [@eq_comm _ l.start]
  · simp [@eq_comm _ l.stop]

theorem Hull.bounds {claimed : List Lexeme} {start stop : Int} (h : Hull claimed start stop)
    (hproper : ∀ l ∈ claimed, l.Proper) (hne : claimed ≠ []) : 0 ≤ start ∧ 0 < stop := by
  obtain ⟨l, hl, hstart⟩ := (h.least hne).1
  obtain ⟨m, hm, hstop⟩ := (h.greatest hne).1
  have h1 := hproper l hl
  have h2 := hproper m hm
  unfold Lexeme.Proper at h1 h2
  unfold Lexeme.stop at hstop
  omega

theorem setOf_append {α : Type} (f : Lexeme → α) (a b : List Lexeme) :
    {x | ∃ l ∈ a ++ b, f l = x} = {x | ∃ l ∈ a, f l = x} ∪ {x | ∃ l ∈ b, f l = x} := by
  ext x
  simp [or_and_right, exists_or]

/-- Covering a node takes the lexemes claimed in it into the hull. -/
theorem Hull.cover {claimed more : List Lexeme} {r : Range} {n : Node}
    (hr : Hull claimed r.start r.stop) (hn : Hull more n.start n.stop)
    (hclaimed : ∀ l ∈ claimed, l.Proper) (hmore : ∀ l ∈ more, l.Proper) :
    Hull (claimed ++ more) (r.cover n).start (r.cover n).stop := by
  by_cases hm : more = []
  · have hno : n.isPositioned = false := by simp [Node.isPositioned, (hn.none hm).1]
    rw [hm, List.append_nil, Range.cover, hno]
    exact hr
  · obtain ⟨hstart, hstop⟩ := hn.bounds hmore hm
    have hyes : n.isPositioned = true := decide_eq_true hstart
    simp only [Range.cover, hyes, if_true]
    -- the first node with a range replaces the missing one, any later one widens it
    by_cases hc : claimed = []
    · obtain ⟨hs, he⟩ := hr.none hc
      rw [hc, List.nil_append, hs, he, if_pos (by decide), max_eq_right (by omega)]
      exact hn
    · obtain ⟨hs, _⟩ := hr.bounds hclaimed hc
      rw [if_neg (Int.not_lt.mpr hs)]
      refine ⟨fun h => absurd (List.append_eq_nil_iff.mp h).1 hc, fun _ => ?_, fun _ => ?_⟩
      · rw [setOf_append]
        exact (hr.least hc).union (hn.least hm)
      · rw [setOf_append]
        exact (hr.greatest hc).union (hn.greatest hm)

theorem foldl_cover_hull {nodes : List Node} {as : List Attribution}
    (h : List.Forall₂ (fun n a => Hull a.claims n.start n.stop) nodes as)
    (hproper : ∀ l ∈ Attribution.claimsAll as, l.Proper) :
    ∀ {claimed : List Lexeme} {own : Range}, (∀ l ∈ claimed, l.Proper) →
      Hull claimed own.start own.stop →
      Hull (claimed ++ Attribution.claimsAll as) (nodes.foldl Range.cover own).start
        (nodes.foldl Range.cover own).stop := by
  induction h with
  | nil =>
    intro claimed own _ hown
    rw [Attribution.claimsAll, List.append_nil]
    exact hown
  | @cons n a nodes as hn _ ih =>
    intro claimed own hclaimed hown
    rw [Attribution.claimsAll, List.forall_mem_append] at hproper
    rw [Attribution.claimsAll, ← List.append_assoc, List.foldl_cons]
    refine ih hproper.2 ?_ (hown.cover hn hclaimed hproper.1)
    exact List.forall_mem_append.mpr ⟨hclaimed, hproper.1⟩

theorem Hull.inside {claimed more : List Lexeme} {start stop start' stop' : Int}
    (h : Hull claimed start stop) (h' : Hull more start' stop') (hsub : more ⊆ claimed)
    (hne : more ≠ []) : start ≤ start' ∧ stop' ≤ stop := by
  obtain ⟨l, hl, hstart⟩ := (h'.least hne).1
  obtain ⟨m, hm, hstop⟩ := (h'.greatest hne).1
  have hclaimed := List.ne_nil_of_mem (hsub hl)
  exact ⟨(h.least hclaimed).2 ⟨l, hsub hl, hstart⟩, (h.greatest hclaimed).2 ⟨m, hsub hm, hstop⟩⟩

/-! ## The built tree mirrors the attribution -/

/-- The node is named for the expression and spans the lexemes claimed in its tree. -/
structure Stands (n : Node) (a : Attribution) : Prop where
  kind : n.kind = a.expr.kind
  name : n.name = a.expr.nodeName
  aliasName : n.aliasName = a.expr.nodeAlias
  hull : Hull a.claims n.start n.stop

/-- The two trees agree, `levels` levels of them with children and below that without. -/
def Mirrors : Nat → Node → Attribution → Prop
  | 0, n, a => Stands n a ∧ n.children = [] ∧ a.parts = [] ∧ a.claims = []
  | levels + 1, n, a => Stands n a ∧ a.parts.map Attribution.expr = a.expr.children ∧
      List.Forall₂ (Mirrors levels) n.children a.parts

theorem Mirrors.stands {levels : Nat} {n : Node} {a : Attribution} (h : Mirrors levels n a) :
    Stands n a := by
  cases levels with
  | zero => exact h.1
  | succ levels => exact h.1

/-- What building and attributing have in common on the same lexemes. -/
structure Agree (levels : Nat) (es : List Expr) (free : List Lexeme)
    (nodes : List Node × List Lexeme) (as : List Attribution × List Lexeme) : Prop where
  left : nodes.2 = as.2
  exprs : as.1.map Attribution.expr = es
  mirrors : List.Forall₂ (Mirrors levels) nodes.1 as.1
  claims : Attribution.claimsAll as.1 ⊆ free
  rest : as.2 ⊆ free

theorem each_agree {levels : Nat} (es : List Expr)
    (h : ∀ e free, (∀ l ∈ free, l.Proper) → Agree levels [e] free
      ([(buildNode levels e free).1], (buildNode levels e free).2)
      ([(attributed levels e free).1], (attributed levels e free).2)) :
    ∀ free, (∀ l ∈ free, l.Proper) →
      Agree levels es free (buildEach (buildNode levels) es free)
          (attributedEach (attributed levels) es free) := by
  induction es with
  | nil =>
    intro free _
    exact ⟨rfl, rfl, .nil, List.nil_subset _, List.Subset.refl _⟩
  | cons e rest ih =>
    intro free hfree
    obtain ⟨hleft, hexpr, hmirror, hclaims, hrest⟩ := h e free hfree
    obtain ⟨hleft', hexprs, hmirrors, hclaims', hrest'⟩ :=
      ih (attributed levels e free).2 fun l hl => hfree l (hrest hl)
    simp only at hleft hrest
    simp only [buildEach, attributedEach, hleft]
    refine ⟨hleft', ?_, ?_, ?_, List.Subset.trans hrest' hrest⟩
    · rw [List.map_cons, hexprs]
      exact congrArg (· :: rest) (List.singleton_inj.mp hexpr)
    · exact .cons (List.forall₂_cons.mp hmirror).1 hmirrors
    · rw [Attribution.claimsAll]
      rw [Attribution.claimsAll, Attribution.claimsAll, List.append_nil] at hclaims
      exact List.append_subset.mpr ⟨hclaims, List.Subset.trans hclaims' hrest⟩

/-- The builder and the attribution begin with the same claim and go on with the lexemes that it
leaves. -/
theorem level_eq (levels : Nat) (e : Expr) (free : List Lexeme) :
    ∃ (own : Option Lexeme) (range : Range) (left : List Lexeme),
      Hull own.toList range.start range.stop ∧ own.toList ⊆ free ∧ left ⊆ free ∧
      attributed (levels + 1) e free =
        (.mk e own (attributedEach (attributed levels) e.children left).1,
        (attributedEach (attributed levels) e.children left).2) ∧
      buildNode (levels + 1) e free = (.mk e.kind e.nodeName e.nodeAlias
          ((buildEach (buildNode levels) e.children left).1.foldl Range.cover range).start
          ((buildEach (buildNode levels) e.children left).1.foldl Range.cover range).stop
          (buildEach (buildNode levels) e.children left).1,
        (buildEach (buildNode levels) e.children left).2) := by
  cases hclaim : e.claim? free with
  | none =>
    refine ⟨none, {}, free, hull_nil, List.nil_subset _, List.Subset.refl _, ?_, ?_⟩
    · simp only [attributed, hclaim]
    · simp only [buildNode, hclaim]
  | some found =>
    obtain ⟨l, left⟩ := found
    obtain ⟨hl, hsub⟩ := Expr.claim?_subset hclaim
    refine ⟨some l, ⟨l.start, l.stop⟩, left, hull_singleton l, by simpa using hl, hsub, ?_, ?_⟩
    · simp only [attributed, hclaim]
    · simp only [buildNode, hclaim]

/-- The builder claims as the attribution says, and its tree mirrors the attribution. -/
theorem buildNode_agree : ∀ (levels : Nat) (e : Expr) (free : List Lexeme), (∀ l ∈ free, l.Proper) →
    Agree levels [e] free ([(buildNode levels e free).1], (buildNode levels e free).2)
      ([(attributed levels e free).1], (attributed levels e free).2)
  | 0, e, free, _ => by
    refine ⟨rfl, rfl, .cons ⟨⟨rfl, rfl, rfl, hull_nil⟩, rfl, rfl, rfl⟩ .nil, ?_, List.Subset.refl _⟩
    exact List.nil_subset _
  | levels + 1, e, free, hfree => by
    obtain ⟨own, range, left, hhull, hown, hleft, hattributed, hbuild⟩ := level_eq levels e free
    have hproper : ∀ l ∈ left, l.Proper := fun l hl => hfree l (hleft hl)
    obtain ⟨hrest, hexprs, hmirrors, hclaims, hsub⟩ :=
      each_agree e.children (buildNode_agree levels) left hproper
    have hhulls : List.Forall₂ (fun n a => Hull a.claims n.start n.stop)
        (buildEach (buildNode levels) e.children left).1
        (attributedEach (attributed levels) e.children left).1 :=
      hmirrors.imp fun n a h => h.stands.hull
    have hrange := foldl_cover_hull hhulls (fun l hl => hproper l (hclaims hl))
      (fun l hl => hfree l (hown hl)) hhull
    rw [hattributed, hbuild]
    refine ⟨hrest, rfl, .cons ⟨⟨rfl, rfl, rfl, ?_⟩, hexprs, hmirrors⟩ .nil, ?_,
      List.Subset.trans hsub hleft⟩
    · rw [Attribution.claims]
      exact hrange
    · rw [Attribution.claimsAll, Attribution.claimsAll, List.append_nil, Attribution.claims]
      exact List.append_subset.mpr ⟨hown, List.Subset.trans hclaims hleft⟩

end Grammar

end SqlStyle
