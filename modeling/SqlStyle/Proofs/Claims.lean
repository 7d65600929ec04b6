import Mathlib.Data.Int.ConditionallyCompleteOrder
import Mathlib.Order.CompletePartialOrder
import Mathlib.Order.ConditionallyCompleteLattice.Basic
import Mathlib.Order.Interval.Set.Disjoint
import SqlStyle.Proofs.Attribution

/-! # Claims one after the other

Building a tree hands the lexemes that are left from expression to expression through a recursion.
In the order of the walk that recursion is a plain sequence of claims (`attributed_claims`), and
what a sequence of claims keeps, the tree keeps: no lexeme is claimed twice, and each is claimed by
an expression that it spells. The built tree is the tree of the attribution, node for node
(`buildNode_eq`), so leaves whose lexemes do not overlap do not overlap either. -/

namespace SqlStyle.Grammar

/-! ## One claim -/

/-- The family by which an expression looks for a lexeme. A class of the grammar is in one of them
at most; of several the first would count. -/
def Expr.leafFamily? (e : Expr) : Option Family :=
  [.identifier, .literal, .star, .null, .boolean, .dataType].find? e.isA

/-- The lexeme spells the expression. -/
def Expr.SpelledBy (e : Expr) (l : Lexeme) : Prop :=
  match e.leafFamily? with
  | some .identifier => l.text = e.name
  | some .literal => l.text = e.name
  | some .star => l.text = "*"
  | some .null => Text.upper l.text = "NULL"
  | some .boolean => Text.upper l.text = if (e.arg "this").isTruthy then "TRUE" else "FALSE"
  | some .dataType => e.arg "this" = .type l.type
  | _ => False

theorem claim_eq_some {p : Lexeme → Bool} {free : List Lexeme} :
    ∀ {l : Lexeme} {left : List Lexeme}, claim p free = some (l, left) →
      ∃ before after, free = before ++ l :: after ∧ left = before ++ after ∧ p l = true ∧
        ∀ m ∈ before, p m = false := by
  induction free with
  | nil => intro l left h; cases h
  | cons first rest ih =>
    intro l left h
    unfold claim at h
    split at h
    · rename_i hfirst
      cases h
      exact ⟨[], rest, rfl, rfl, hfirst, by simp⟩
    · rename_i hfirst
      obtain ⟨⟨m, others⟩, hfound, heq⟩ := Option.map_eq_some_iff.mp h
      cases heq
      obtain ⟨before, after, hrest, hothers, hpass, hbefore⟩ := ih hfound
      refine ⟨first :: before, after, by rw [hrest, List.cons_append], by simp only [hothers,
        List.cons_append], hpass, ?_⟩
      exact List.forall_mem_cons.mpr ⟨Bool.eq_false_iff.mpr hfirst, hbefore⟩

/-- The lexeme was taken out of its place and spells the expression. -/
def Expr.Takes (e : Expr) (free : List Lexeme) (l : Lexeme) (left : List Lexeme) : Prop :=
  ∃ before after, free = before ++ l :: after ∧ left = before ++ after ∧ e.SpelledBy l

theorem Expr.takes_of_claim {e : Expr} {p : Lexeme → Bool} {free left : List Lexeme} {l : Lexeme}
    (h : claim p free = some (l, left)) (hp : p l = true → e.SpelledBy l) :
    e.Takes free l left := by
  obtain ⟨before, after, hfree, hleft, hl, _⟩ := claim_eq_some h
  exact ⟨before, after, hfree, hleft, hp hl⟩

theorem Expr.claim?_takes {e : Expr} {free left : List Lexeme} {l : Lexeme}
    (h : e.claim? free = some (l, left)) : e.Takes free l left := by
  -- the families are asked in one order, here and in `leafFamily?`
  unfold Expr.claim? at h
  split at h
  · rename_i h1
    have hfamily : e.leafFamily? = some .identifier := by simp [leafFamily?, h1]
    rcases Option.or_eq_some_iff.mp h with h | ⟨_, h⟩
    · exact takes_of_claim h fun hl => by simp_all [SpelledBy]
    · exact takes_of_claim h fun hl => by simp_all [SpelledBy]
  rename_i h1
  split at h
  · rename_i h2
    have hfamily : e.leafFamily? = some .literal := by simp [leafFamily?, h1, h2]
    rcases Option.or_eq_some_iff.mp h with h | ⟨_, h⟩
    · exact takes_of_claim h fun hl => by simp_all [SpelledBy]
    · exact takes_of_claim h fun hl => by simp_all [SpelledBy]
  rename_i h2
  split at h
  · rename_i h3
    have hfamily : e.leafFamily? = some .star := by simp [leafFamily?, h1, h2, h3]
    exact takes_of_claim h fun hl => by simpa [SpelledBy, hfamily] using hl
  rename_i h3
  split at h
  · rename_i h4
    have hfamily : e.leafFamily? = some .null := by simp [leafFamily?, h1, h2, h3, h4]
    exact takes_of_claim h fun hl => by simpa [SpelledBy, hfamily] using hl
  rename_i h4
  split at h
  · rename_i h5
    have hfamily : e.leafFamily? = some .boolean := by simp [leafFamily?, h1, h2, h3, h4, h5]
    exact takes_of_claim h fun hl => by simpa [SpelledBy, hfamily] using hl
  rename_i h5
  split at h
  · rename_i h6
    have hfamily : e.leafFamily? = some .dataType := by simp [leafFamily?, h1, h2, h3, h4, h5, h6]
    split at h
    · rename_i name hname
      refine takes_of_claim h fun hl => ?_
      simp only [SpelledBy, hfamily, hname]
      exact congrArg Value.type (beq_iff_eq.mp hl).symm
    · cases h
  · cases h

/-! ## Claims in a row -/

/-- Expressions claim lexemes one after the other: from `free` on, each what it is listed with, so
that `last` is left. If `whole` holds, an expression goes without a lexeme only if it finds none. -/
inductive Claims (whole : Prop) : List Lexeme → List (Expr × Option Lexeme) → List Lexeme → Prop
  | done {free : List Lexeme} : Claims whole free [] free
  | takes {free left last : List Lexeme} {e : Expr} {l : Lexeme}
    {rest : List (Expr × Option Lexeme)} :
      e.claim? free = some (l, left) → Claims whole left rest last →
        Claims whole free ((e, some l) :: rest) last
  | passes {free last : List Lexeme} {e : Expr} {rest : List (Expr × Option Lexeme)} :
      (whole → e.claim? free = none) → Claims whole free rest last →
        Claims whole free ((e, none) :: rest) last

namespace Claims

variable {whole : Prop} {free middle last : List Lexeme} {a b : List (Expr × Option Lexeme)}

theorem append (ha : Claims whole free a middle) (hb : Claims whole middle b last) :
    Claims whole free (a ++ b) last := by
  induction ha with
  | done => exact hb
  | takes h _ ih => exact .takes h (ih hb)
  | passes h _ ih => exact .passes h (ih hb)

theorem mono {more : Prop} (hmore : more → whole) (h : Claims whole free a last) :
    Claims more free a last := by
  induction h with
  | done => exact .done
  | takes h _ ih => exact .takes h ih
  | passes h _ ih => exact .passes (fun hm => h (hmore hm)) ih

/-- Every lexeme is claimed by one expression or left. -/
theorem perm (h : Claims whole free a last) : (a.filterMap Prod.snd ++ last).Perm free := by
  induction h with
  | done => exact List.Perm.refl _
  | takes h _ ih =>
    obtain ⟨before, after, rfl, rfl, _⟩ := Expr.claim?_takes h
    exact (ih.cons _).trans List.perm_middle.symm
  | passes _ _ ih => exact ih

theorem spelledBy (h : Claims whole free a last) : ∀ e l, (e, some l) ∈ a → e.SpelledBy l := by
  induction h with
  | done => intro e l hm; cases hm
  | takes h _ ih =>
    intro e l hm
    rcases List.mem_cons.mp hm with heq | hm
    · obtain ⟨rfl, hl⟩ := Prod.mk.inj heq
      obtain ⟨_, _, _, _, hspelled⟩ := Expr.claim?_takes h
      exact Option.some.inj hl ▸ hspelled
    · exact ih e l hm
  | passes _ _ ih =>
    intro e l hm
    exact ih e l ((List.mem_cons.mp hm).resolve_left fun heq => by cases heq)

end Claims

/-! ## The tree as a row -/

namespace Attribution

def lexeme? : Attribution → Option Lexeme
  | mk _ lexeme? _ => lexeme?

mutual

/-- The attribution and those below it, in the order of the walk. -/
def subtrees : Attribution → List Attribution
  | mk expr lexeme? parts => mk expr lexeme? parts :: subtreesAll parts

/-- The subtrees of several attributions, one after the other. -/
def subtreesAll : List Attribution → List Attribution
  | [] => []
  | a :: rest => subtrees a ++ subtreesAll rest

end

/-- An expression with what it claimed. -/
def entry (a : Attribution) : Expr × Option Lexeme := (a.expr, a.lexeme?)

/-- The range of the lexeme claimed, if there is one. -/
def own (a : Attribution) : Range := a.lexeme?.elim {} fun l => ⟨l.start, l.stop⟩

mutual

/-- The node that an attribution stands for. -/
def node : Attribution → Node
  | mk expr lexeme? parts =>
    let range := (nodes parts).foldl Range.cover (mk expr lexeme? parts).own
    .mk expr.kind expr.nodeName expr.nodeAlias range.start range.stop (nodes parts)

def nodes : List Attribution → List Node
  | [] => []
  | a :: rest => node a :: nodes rest

end

mutual

theorem preorder_node : (a : Attribution) → a.node.preorder = a.subtrees.map node
  | mk expr lexeme? parts => by
    rw [subtrees, List.map_cons, ← preorderAll_nodes parts, Node.preorder_eq]
    simp only [node, Node.children]

theorem preorderAll_nodes :
    (as : List Attribution) → Node.preorderAll (nodes as) = (subtreesAll as).map node
  | [] => rfl
  | a :: rest => by
    rw [nodes, Node.preorderAll, subtreesAll, List.map_append, preorder_node a,
      preorderAll_nodes rest]

end

/-- A leaf with a place has it from the lexeme it claimed. -/
theorem exists_lexeme_of_leaf {a : Attribution} (hleaf : a.node.children = [])
    (hplace : a.node.isPositioned = true) :
    ∃ l, a.lexeme? = some l ∧ a.node.start = l.start ∧ a.node.stop = l.stop := by
  obtain ⟨expr, lexeme?, parts⟩ := a
  have hnodes : nodes parts = [] := by simpa only [node, Node.children] using hleaf
  cases lexeme? with
  | none =>
    have hstart : (mk expr none parts).node.start = -1 := by
      simp only [node, hnodes, List.foldl_nil, Node.start]
      rfl
    rw [Node.isPositioned, hstart] at hplace
    cases hplace
  | some l =>
    refine ⟨l, rfl, ?_, ?_⟩
    · simp only [node, hnodes, List.foldl_nil, Node.start]
      rfl
    · simp only [node, hnodes, List.foldl_nil, Node.stop]
      rfl

end Attribution

/-- The tree has fewer than `levels` levels below its root. -/
def Expr.Within : Nat → Expr → Prop
  | 0, _ => False
  | levels + 1, e => ∀ child ∈ e.children, Within levels child

instance Expr.decidableWithin : (levels : Nat) → (e : Expr) → Decidable (e.Within levels)
  | 0, _ => inferInstanceAs (Decidable False)
  | levels + 1, e =>
    have := decidableWithin levels
    inferInstanceAs (Decidable (∀ child ∈ e.children, child.Within levels))

theorem attributedEach_claims {levels : Nat} (es : List Expr)
    (h : ∀ e free, Claims (e.Within levels) free
      ((attributed levels e free).1.subtrees.map Attribution.entry)
      (attributed levels e free).2) :
    ∀ free, Claims (∀ e ∈ es, e.Within levels) free
      ((Attribution.subtreesAll (attributedEach (attributed levels) es free).1).map
        Attribution.entry)
      (attributedEach (attributed levels) es free).2 := by
  induction es with
  | nil => intro free; exact .done
  | cons e rest ih =>
    intro free
    have hfirst := (h e free).mono fun (hall : ∀ x ∈ e :: rest, x.Within levels) =>
      hall e List.mem_cons_self
    have hrest := (ih (attributed levels e free).2).mono
        fun (hall : ∀ x ∈ e :: rest, x.Within levels) =>
      fun x hx => hall x (List.mem_cons_of_mem _ hx)
    simp only [attributedEach, Attribution.subtreesAll, List.map_append]
    exact hfirst.append hrest

/-- The recursion makes its claims in the order of the walk. Only below the cut does an expression
not look. -/
theorem attributed_claims : ∀ (levels : Nat) (e : Expr) (free : List Lexeme),
    Claims (e.Within levels) free ((attributed levels e free).1.subtrees.map Attribution.entry)
      (attributed levels e free).2
  | 0, e, free => .passes (fun h => h.elim) .done
  | levels + 1, e, free => by
    cases hclaim : e.claim? free with
    | none =>
      simp only [attributed, hclaim]
      exact .passes (fun _ => hclaim)
        (attributedEach_claims e.children (attributed_claims levels) free)
    | some found =>
      obtain ⟨l, left⟩ := found
      simp only [attributed, hclaim]
      exact .takes hclaim (attributedEach_claims e.children (attributed_claims levels) left)

theorem buildEach_eq {levels : Nat} (es : List Expr)
    (h : ∀ e free, buildNode levels e free =
      ((attributed levels e free).1.node, (attributed levels e free).2)) :
    ∀ free, buildEach (buildNode levels) es free =
      (Attribution.nodes (attributedEach (attributed levels) es free).1,
        (attributedEach (attributed levels) es free).2) := by
  induction es with
  | nil => intro free; rfl
  | cons e rest ih =>
    intro free
    simp only [buildEach, attributedEach, h, ih, Attribution.nodes]

/-- The built tree is the tree of the attribution. -/
theorem buildNode_eq : ∀ (levels : Nat) (e : Expr) (free : List Lexeme),
    buildNode levels e free = ((attributed levels e free).1.node, (attributed levels e free).2)
  | 0, e, free => rfl
  | levels + 1, e, free => by
    have hbelow := buildEach_eq e.children (buildNode_eq levels)
    cases hclaim : e.claim? free with
    | none =>
      simp only [attributed, buildNode, hclaim, hbelow, Attribution.node]
      rfl
    | some found =>
      obtain ⟨l, left⟩ := found
      simp only [attributed, buildNode, hclaim, hbelow, Attribution.node]
      rfl

theorem Expr.toNode_eq_node {e : Expr} {lexemes : List Lexeme} {n : Node}
    (h : e.toNode lexemes = .ok n) :
    n = (e.attribution lexemes).node := by
  unfold Expr.toNode at h
  split at h
  · cases h
  · cases h
    rw [buildNode_eq]
    rfl

theorem Expr.walk_eq_subtrees {e : Expr} {lexemes : List Lexeme} {n : Node}
    (h : e.toNode lexemes = .ok n) :
    n.walk = (e.attribution lexemes).subtrees.map Attribution.node := by
  rw [e.toNode_eq_node h, Node.walk_eq_preorder, Attribution.preorder_node]

/-! ## No lexeme twice -/

/-- What is part of a rearrangement can be numbered by places in the original, all different. -/
theorem exists_numbers {claimed left lexemes : List Lexeme} (h : (claimed ++ left).Perm lexemes) :
    ∃ numbers : List Nat, numbers.Nodup ∧ claimed.map some = numbers.map (lexemes[·]?) := by
  have hzip : List.Forall₂ (fun l (numbered : Lexeme × Nat) => l = numbered.1) lexemes
      lexemes.zipIdx := by
    rw [← List.forall₂_map_right_iff (f := Prod.fst), List.zipIdx_map_fst]
    exact List.forall₂_same.mpr fun _ _ => rfl
  obtain ⟨numbered, hnumbered, hperm⟩ := List.perm_comp_forall₂ h hzip
  rw [← List.forall₂_map_right_iff (f := Prod.fst), List.forall₂_eq_eq_eq] at hnumbered
  have hclaimed : claimed = (numbered.take claimed.length).map Prod.fst := by
    rw [List.map_take, ← hnumbered, List.take_left]
  refine ⟨(numbered.take claimed.length).map Prod.snd, ?_, ?_⟩
  · have hnodup : (numbered.map Prod.snd).Nodup := by
      rw [(hperm.map Prod.snd).nodup_iff, List.zipIdx_map_snd]
      exact List.nodup_range' _
    exact hnodup.sublist ((List.take_sublist _ _).map _)
  · conv_lhs => rw [hclaimed]
    rw [List.map_map, List.map_map]
    refine List.map_congr_left fun pair hpair => ?_
    exact (List.mem_zipIdx_iff_getElem?.mp (hperm.subset (List.mem_of_mem_take hpair))).symm

theorem Attribution.filterMap_entry (as : List Attribution) :
    (as.map Attribution.entry).filterMap Prod.snd = as.filterMap Attribution.lexeme? := by
  rw [List.filterMap_map]
  rfl

/-- **Lexemes are claimed at most once, and only by what they spell.** In the order of the walk, the
lexemes that expressions claimed have different places in the statement, and each spells its
expression. The built tree has one node per expression, and if the lexemes do not overlap, no two
leaves of it overlap either. -/
theorem toNode_claims_once (e : Expr) (lexemes : List Lexeme) :
    (∃ numbers : List Nat, numbers.Nodup ∧
      ((e.attribution lexemes).subtrees.filterMap Attribution.lexeme?).map some =
        numbers.map (lexemes[·]?)) ∧
    (∀ a ∈ (e.attribution lexemes).subtrees, ∀ l, a.lexeme? = some l → a.expr.SpelledBy l) ∧
    ∀ n, e.toNode lexemes = .ok n →
      n.walk = (e.attribution lexemes).subtrees.map Attribution.node ∧
      (lexemes.Pairwise (fun a b => Disjoint (Set.Ico a.start a.stop) (Set.Ico b.start b.stop)) →
        (n.walk.filter fun m => m.children.isEmpty && m.isPositioned).Pairwise
          fun a b => Disjoint (Set.Ico a.start a.stop) (Set.Ico b.start b.stop)) := by
  have hclaims := attributed_claims maxLevels e lexemes
  have hperm := hclaims.perm
  rw [Attribution.filterMap_entry] at hperm
  refine ⟨exists_numbers hperm, ?_, ?_⟩
  · intro a ha l hl
    exact hclaims.spelledBy a.expr l (List.mem_map.mpr ⟨a, ha, by rw [Attribution.entry, hl]⟩)
  · intro n hn
    have hwalk := e.walk_eq_subtrees hn
    refine ⟨hwalk, ?_⟩
    intro hlexemes
    have hclaimed := (List.pairwise_append.mp (hperm.symm.pairwise hlexemes fun h => h.symm)).1
    rw [List.pairwise_filterMap] at hclaimed
    rw [hwalk, List.filter_map, List.pairwise_map]
    refine (hclaimed.sublist List.filter_sublist).imp_of_mem ?_
    intro a b ha hb hapart
    have hleaf : ∀ c : Attribution, c ∈ (e.attribution lexemes).subtrees.filter
        ((fun m => m.children.isEmpty && m.isPositioned) ∘ Attribution.node) →
        ∃ l, c.lexeme? = some l ∧ c.node.start = l.start ∧ c.node.stop = l.stop := by
      intro c hc
      obtain ⟨hchildren, hplace⟩ := Bool.and_eq_true_iff.mp (List.mem_filter.mp hc).2
      exact Attribution.exists_lexeme_of_leaf (List.isEmpty_iff.mp hchildren) hplace
    obtain ⟨l, hl, hlstart, hlstop⟩ := hleaf a ha
    obtain ⟨m, hm, hmstart, hmstop⟩ := hleaf b hb
    rw [hlstart, hlstop, hmstart, hmstop]
    exact hapart l hl m hm

/-- A name that is written twice: each leaf has the place of its own lexeme. -/
theorem toNode_claims_once_repeated :
    let name : Expr :=
      .mk ⟨"Identifier", ["this"], [.identifier]⟩ [("this", .text "x")] [(.name, .text "x")]
    let e : Expr :=
      .mk ⟨"Tuple", ["expressions"], []⟩ [("expressions", .list [.expr name, .expr name])] []
    let lexemes : List Lexeme :=
      [⟨"VAR", "x", 1, 1, 0, 0⟩, ⟨"COMMA", ",", 1, 2, 1, 1⟩, ⟨"VAR", "x", 1, 4, 3, 3⟩]
    lexemes.Pairwise (fun a b => Disjoint (Set.Ico a.start a.stop) (Set.Ico b.start b.stop)) ∧
    ∃ n, e.toNode lexemes = .ok n ∧
      ((n.walk.filter fun m => m.children.isEmpty && m.isPositioned).map fun m =>
        (m.start, m.stop)) =
        [(0, 1), (3, 4)] ∧
      (n.walk.filter fun m => m.children.isEmpty && m.isPositioned).Pairwise
        fun a b => Disjoint (Set.Ico a.start a.stop) (Set.Ico b.start b.stop) := by
  intro name e lexemes
  have hapart : lexemes.Pairwise (fun a b =>
      Disjoint (Set.Ico a.start a.stop) (Set.Ico b.start b.stop)) := by
    simp [lexemes, Lexeme.stop, Set.Ico_disjoint_Ico]
  have hfault : e.fault? maxLevels = none := Option.isNone_iff_eq_none.mp (by decide +kernel)
  have hn : e.toNode lexemes = .ok (buildNode maxLevels e lexemes).1 := by rw [Expr.toNode, hfault]
  refine ⟨hapart, _, hn, ?_, ((toNode_claims_once e lexemes).2.2 _ hn).2 hapart⟩
  rw [Node.walk_eq_preorder]
  decide +kernel

end SqlStyle.Grammar
