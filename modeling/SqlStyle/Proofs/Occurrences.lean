import SqlStyle.Proofs.Claims

/-! # Which occurrence an identifier claims

An identifier is looked for by its spelling, among all lexemes that are no literals. Where the
identifiers of a statement are written as its identifier lexemes are, one by one (`Expr.Aligned`),
each should claim its own (`Expr.InOrder`). It does exactly if identifiers and the other expressions
keep to lexemes of their own sort (`Expr.KeepsApart`). As long as the others do, one thing only can
lead an identifier astray: a lexeme of another sort before its own that is spelled alike
(`Lexeme.Shadows`), for the first of the two is claimed. -/

namespace SqlStyle.Grammar

/-! ## One identifier -/

theorem Lexeme.isLiteral_of_isIdentifier {l : Lexeme} (h : l.isIdentifier = true) :
    l.isLiteral = false := by
  rcases Bool.or_eq_true_iff.mp h with h | h
  · rw [isLiteral, isString, isNumber, beq_iff_eq.mp h]
    decide
  · rw [isLiteral, isString, isNumber, beq_iff_eq.mp h]
    decide

/-- The lexeme is neither an identifier nor a literal, and spelled like an identifier lexeme. -/
@[mk_iff]
structure Lexeme.Shadows (m l : Lexeme) : Prop where
  other : m.isIdentifier = false
  plain : m.isLiteral = false
  identifier : l.isIdentifier = true
  text : m.text = l.text

instance (m l : Lexeme) : Decidable (m.Shadows l) :=
  decidable_of_iff _ (Lexeme.shadows_iff m l).symm

theorem exists_claim {p : Lexeme → Bool} {free : List Lexeme} {l : Lexeme} (hl : l ∈ free)
    (hp : p l = true) :
    ∃ m left, claim p free = some (m, left) := by
  induction free with
  | nil => cases hl
  | cons first rest ih =>
    unfold claim
    split
    · exact ⟨_, _, rfl⟩
    · rename_i hfirst
      have hrest : l ∈ rest := (List.mem_cons.mp hl).resolve_left fun heq => hfirst (heq ▸ hp)
      obtain ⟨m, left, hclaim⟩ := ih hrest
      exact ⟨m, first :: left, by rw [hclaim]; rfl⟩

/-- With the name of the first identifier lexeme left, an identifier claims that lexeme, or one
before it that shadows it. -/
theorem Expr.claim?_identifier {e : Expr} (he : e.isA .identifier = true)
    {free others : List Lexeme} {l : Lexeme} (hfree : free.filter Lexeme.isIdentifier = l :: others)
    (hname : e.name = l.text) :
    ∃ m left, e.claim? free = some (m, left) ∧
      (m = l ∧ left.filter Lexeme.isIdentifier = others ∨ m.Shadows l ∧ [m, l].Sublist free) := by
  obtain ⟨hl, hid⟩ := List.mem_filter.mp
    (hfree ▸ List.mem_cons_self : l ∈ free.filter Lexeme.isIdentifier)
  have hplain := Lexeme.isLiteral_of_isIdentifier hid
  obtain ⟨m, left, hclaim⟩ := exists_claim (p := fun x => !x.isLiteral && x.text == e.name) hl
    (by simp [hplain, hname])
  refine ⟨m, left, by simp [claim?, he, hclaim], ?_⟩
  obtain ⟨before, after, rfl, rfl, hm, hbefore⟩ := claim_eq_some hclaim
  obtain ⟨hmplain, hmtext⟩ : m.isLiteral = false ∧ m.text = e.name := by simpa using hm
  have hlate : l ∉ before := fun hmem => by simpa [hplain, hname] using hbefore l hmem
  have hnone : before.filter Lexeme.isIdentifier = [] := by
    cases hb : before.filter Lexeme.isIdentifier with
    | nil => rfl
    | cons first rest =>
      rw [List.filter_append, hb, List.cons_append, List.cons.injEq] at hfree
      exact absurd (List.mem_of_mem_filter (hb ▸ List.mem_cons_self)) (hfree.1 ▸ hlate)
  rw [List.filter_append, hnone, List.nil_append] at hfree
  cases hmid : m.isIdentifier with
  | true =>
    rw [List.filter_cons_of_pos hmid, List.cons.injEq] at hfree
    rw [List.filter_append, hnone]
    exact .inl hfree
  | false =>
    rw [List.filter_cons_of_neg (by simp [hmid])] at hfree
    have hafter : l ∈ after := List.mem_of_mem_filter (hfree ▸ List.mem_cons_self)
    refine .inr ⟨⟨hmid, hmplain, hid, hmtext.trans hname⟩, ?_⟩
    exact ((List.singleton_sublist.mpr hafter).cons_cons m).trans (List.sublist_append_right _ _)

/-! ## Identifiers in a row -/

section

variable {free last : List Lexeme} {entries : List (Expr × Option Lexeme)}

/-- The identifiers among some entries. -/
def identifiers (entries : List (Expr × Option Lexeme)) : List (Expr × Option Lexeme) :=
  entries.filter (·.1.isA .identifier)

theorem identifiers_cons_of_pos {e : Expr} (he : e.isA .identifier = true) (l? : Option Lexeme) :
    identifiers ((e, l?) :: entries) = (e, l?) :: identifiers entries := by
  simp [identifiers, he]

theorem identifiers_cons_of_neg {e : Expr} (he : e.isA .identifier = false) (l? : Option Lexeme) :
    identifiers ((e, l?) :: entries) = identifiers entries := by
  simp [identifiers, he]

/-- The first identifier of a row is named as the first identifier lexeme. -/
theorem exists_first_identifier {e : Expr} {l? : Option Lexeme} (he : e.isA .identifier = true)
    (hnames : (identifiers ((e, l?) :: entries)).map (·.1.name) =
      (free.filter Lexeme.isIdentifier).map Lexeme.text) :
    ∃ l others, free.filter Lexeme.isIdentifier = l :: others ∧ e.name = l.text ∧
      (identifiers entries).map (·.1.name) = others.map Lexeme.text := by
  rw [identifiers_cons_of_pos he, List.map_cons, eq_comm, List.map_eq_cons_iff] at hnames
  obtain ⟨l, others, hfree, htext, hrest⟩ := hnames
  exact ⟨l, others, hfree, htext.symm, hrest.symm⟩

/-- Some identifier claimed a lexeme that shadows one further on. -/
def Shadowed (free : List Lexeme) (entries : List (Expr × Option Lexeme)) : Prop :=
  ∃ e m l, (e, some m) ∈ entries ∧ e.isA .identifier = true ∧ m.Shadows l ∧ [m, l].Sublist free

theorem Shadowed.cons {left : List Lexeme} (h : Shadowed left entries) (hsub : left.Sublist free)
    (first : Expr × Option Lexeme) : Shadowed free (first :: entries) := by
  obtain ⟨e, m, l, hm, he, hshadows, hml⟩ := h
  exact ⟨e, m, l, List.mem_cons_of_mem _ hm, he, hshadows, hml.trans hsub⟩

/-- While nothing else claims identifier lexemes, identifiers that are named as those lexemes claim
them in order, unless one claims a lexeme that shadows a later one. -/
theorem Claims.inOrder_or_shadowed (h : Claims True free entries last)
    (hnames : (identifiers entries).map (·.1.name) =
      (free.filter Lexeme.isIdentifier).map Lexeme.text)
    (hothers : ∀ e l, (e, some l) ∈ entries → e.isA .identifier = false → l.isIdentifier = false) :
    (identifiers entries).map Prod.snd = (free.filter Lexeme.isIdentifier).map some ∨
        Shadowed free entries := by
  -- the identifiers still to come are named as the identifier lexemes still free, until one is led
  -- astray
  induction h with
  | @done free =>
    have hnone : free.filter Lexeme.isIdentifier = [] := List.map_eq_nil_iff.mp hnames.symm
    rw [hnone]
    exact .inl rfl
  | @takes free left last e m rest hclaim _ ih =>
    obtain ⟨before, after, hfree, hleft, _⟩ := Expr.claim?_takes hclaim
    have hsub : left.Sublist free := by
      rw [hfree, hleft]
      exact (List.sublist_cons_self m after).append_left before
    have hlater := fun x l hm => hothers x l (List.mem_cons_of_mem _ hm)
    cases he : e.isA .identifier with
    | true =>
      obtain ⟨l, others, hids, hname, hrest⟩ := exists_first_identifier he hnames
      obtain ⟨m', left', hclaim', hfound⟩ := Expr.claim?_identifier he hids hname
      obtain ⟨rfl, rfl⟩ : m = m' ∧ left = left' := by simpa [hclaim] using hclaim'
      rcases hfound with ⟨rfl, rfl⟩ | ⟨hshadows, hml⟩
      · refine (ih hrest hlater).imp ?_ (·.cons hsub _)
        intro hclaims
        rw [identifiers_cons_of_pos he, List.map_cons, hclaims, hids, List.map_cons]
      · exact .inr ⟨e, m, l, List.mem_cons_self, he, hshadows, hml⟩
    | false =>
      have hm := hothers e m List.mem_cons_self he
      have hids : free.filter Lexeme.isIdentifier = left.filter Lexeme.isIdentifier := by
        simp [hfree, hleft, hm]
      rw [identifiers_cons_of_neg he, hids] at hnames
      rw [identifiers_cons_of_neg he, hids]
      exact (ih hnames hlater).imp_right (·.cons hsub _)
  | @passes free last e rest hclaim _ ih =>
    have hlater := fun x l hm => hothers x l (List.mem_cons_of_mem _ hm)
    cases he : e.isA .identifier with
    | true =>
      -- an identifier that should have a lexeme left finds one
      obtain ⟨l, others, hids, hname, _⟩ := exists_first_identifier he hnames
      obtain ⟨m, left, hsome, _⟩ := Expr.claim?_identifier he hids hname
      rw [hclaim trivial] at hsome
      cases hsome
    | false =>
      rw [identifiers_cons_of_neg he] at hnames
      rw [identifiers_cons_of_neg he]
      exact (ih hnames hlater).imp_right (·.cons (List.Sublist.refl _) _)

/-- Identifiers that claim all identifier lexemes leave none for the others. -/
theorem Claims.apart_of_inOrder {whole : Prop} (h : Claims whole free entries last)
    (hclaims : (identifiers entries).map Prod.snd = (free.filter Lexeme.isIdentifier).map some) :
    ∀ e l, (e, some l) ∈ entries → e.isA .identifier = l.isIdentifier := by
  have hids : (identifiers entries).filterMap Prod.snd = free.filter Lexeme.isIdentifier := by
    have hsome := congrArg (List.filterMap id) hclaims
    rwa [List.filterMap_map, List.filterMap_map, Function.id_comp, Function.id_comp,
      List.filterMap_some] at hsome
  intro e l hm
  cases he : e.isA .identifier with
  | true =>
    have hl : l ∈ (identifiers entries).filterMap Prod.snd :=
      List.mem_filterMap.mpr ⟨(e, some l), List.mem_filter.mpr ⟨hm, he⟩, rfl⟩
    rw [hids] at hl
    exact (List.mem_filter.mp hl).2.symm
  | false =>
    -- all identifier lexemes are counted among what identifiers claimed
    have hsplit : (identifiers entries ++ entries.filter (!·.1.isA .identifier)).Perm entries :=
      List.filter_append_perm _ _
    have hcount := (((hsplit.filterMap Prod.snd).append_right last).trans h.perm).countP_eq
      Lexeme.isIdentifier
    have hall : (free.filter Lexeme.isIdentifier).countP Lexeme.isIdentifier =
        free.countP Lexeme.isIdentifier := by
      rw [List.countP_filter]
      simp only [Bool.and_self]
    rw [List.filterMap_append, List.countP_append, List.countP_append, hids, hall] at hcount
    have hzero : ((entries.filter (!·.1.isA .identifier)).filterMap Prod.snd).countP
        Lexeme.isIdentifier = 0 := by
      omega
    have hl : l ∈ (entries.filter (!·.1.isA .identifier)).filterMap Prod.snd :=
      List.mem_filterMap.mpr ⟨(e, some l), List.mem_filter.mpr ⟨hm, by simp [he]⟩, rfl⟩
    exact (Bool.eq_false_iff.mpr (List.countP_eq_zero.mp hzero l hl)).symm

end

/-! ## The tree -/

/-- The expressions that are looked at when a tree is built, in the order of the walk. -/
def Expr.visited : Nat → Expr → List Expr
  | 0, e => [e]
  | levels + 1, e => e :: e.children.flatMap (visited levels)

theorem attributedEach_exprs {levels : Nat} (es : List Expr)
    (h : ∀ e free, (attributed levels e free).1.subtrees.map Attribution.expr = e.visited levels) :
    ∀ free, (Attribution.subtreesAll (attributedEach (attributed levels) es free).1).map
      Attribution.expr =
      es.flatMap (Expr.visited levels) := by
  induction es with
  | nil => intro free; rfl
  | cons e rest ih =>
    intro free
    simp only [attributedEach, Attribution.subtreesAll, List.map_append, h, ih, List.flatMap_cons]

theorem attributed_exprs : ∀ (levels : Nat) (e : Expr) (free : List Lexeme),
    (attributed levels e free).1.subtrees.map Attribution.expr = e.visited levels
  | 0, e, free => rfl
  | levels + 1, e, free => by
    simp only [attributed, Attribution.subtrees, List.map_cons,
      attributedEach_exprs e.children (attributed_exprs levels), Expr.visited]
    rfl

theorem attributedEach_subtrees {levels : Nat} {P : Attribution → Prop} (es : List Expr)
    (h : ∀ e free, ∀ a ∈ (attributed levels e free).1.subtrees, P a) :
    ∀ free, ∀ a ∈ Attribution.subtreesAll (attributedEach (attributed levels) es free).1, P a := by
  induction es with
  | nil => intro free a ha; cases ha
  | cons e rest ih =>
    intro free a ha
    simp only [attributedEach, Attribution.subtreesAll] at ha
    rcases List.mem_append.mp ha with ha | ha
    · exact h e free a ha
    · exact ih _ a ha

/-- An expression without parts is attributed without parts. -/
theorem attributed_subtrees : ∀ (levels : Nat) (e : Expr) (free : List Lexeme),
    ∀ a ∈ (attributed levels e free).1.subtrees, a.expr.children = [] → a.parts = []
  | 0, e, free, a, ha => by
    intro _
    obtain rfl : a = .mk e none [] := by
      simpa [attributed, Attribution.subtrees, Attribution.subtreesAll] using ha
    rfl
  | levels + 1, e, free, a, ha => by
    simp only [attributed, Attribution.subtrees] at ha
    rcases List.mem_cons.mp ha with rfl | ha
    · intro hleaf
      simp only [Attribution.expr] at hleaf
      simp only [Attribution.parts, hleaf, attributedEach]
    · exact attributedEach_subtrees e.children (attributed_subtrees levels) _ a ha

/-- The identifiers are written, one by one and in the order of the walk, as the identifier lexemes
are, and none is below the cut. -/
structure Expr.Aligned (e : Expr) (lexemes : List Lexeme) : Prop where
  depth : e.Within maxLevels
  names : ((e.visited maxLevels).filter (·.isA .identifier)).map Expr.name =
    (lexemes.filter Lexeme.isIdentifier).map Lexeme.text

/-- The k-th identifier claimed the k-th identifier lexeme. -/
def Expr.InOrder (e : Expr) (lexemes : List Lexeme) : Prop :=
  ((e.attribution lexemes).subtrees.filter (·.expr.isA .identifier)).map Attribution.lexeme? =
    (lexemes.filter Lexeme.isIdentifier).map some

/-- Identifiers claimed identifier lexemes only, and nothing else did. -/
def Expr.KeepsApart (e : Expr) (lexemes : List Lexeme) : Prop :=
  ∀ a ∈ (e.attribution lexemes).subtrees, ∀ l, a.lexeme? = some l →
    a.expr.isA .identifier = l.isIdentifier

section

variable {e : Expr} {lexemes : List Lexeme}

theorem identifiers_map_entry (as : List Attribution) :
    identifiers (as.map Attribution.entry) =
        (as.filter (·.expr.isA .identifier)).map Attribution.entry :=
  List.filter_map

theorem Expr.inOrder_iff : e.InOrder lexemes ↔
    (identifiers ((e.attribution lexemes).subtrees.map Attribution.entry)).map Prod.snd =
      (lexemes.filter Lexeme.isIdentifier).map some := by
  rw [identifiers_map_entry, List.map_map]
  rfl

theorem Expr.Aligned.names_entries (h : e.Aligned lexemes) :
    (identifiers ((e.attribution lexemes).subtrees.map Attribution.entry)).map (·.1.name) =
      (lexemes.filter Lexeme.isIdentifier).map Lexeme.text := by
  have hnames := h.names
  rw [← attributed_exprs maxLevels e lexemes, List.filter_map, List.map_map] at hnames
  rw [identifiers_map_entry, List.map_map]
  exact hnames

theorem Expr.mem_entries {x : Expr} {l : Lexeme} :
    (x, some l) ∈ (e.attribution lexemes).subtrees.map Attribution.entry ↔
      ∃ a ∈ (e.attribution lexemes).subtrees, a.expr = x ∧ a.lexeme? = some l := by
  simp only [List.mem_map, Attribution.entry, Prod.mk.injEq]

theorem Expr.Aligned.inOrder_or_shadowed (h : e.Aligned lexemes)
    (hothers : ∀ a ∈ (e.attribution lexemes).subtrees, a.expr.isA .identifier = false →
      ∀ l, a.lexeme? = some l → l.isIdentifier = false) :
    e.InOrder lexemes ∨ ∃ a ∈ (e.attribution lexemes).subtrees, ∃ m l,
      a.expr.isA .identifier = true ∧ a.lexeme? = some m ∧ m.Shadows l ∧
        [m, l].Sublist lexemes := by
  have hclaims := (attributed_claims maxLevels e lexemes).mono fun (_ : True) => h.depth
  rw [Expr.inOrder_iff]
  refine (hclaims.inOrder_or_shadowed h.names_entries ?_).imp_right ?_
  · intro x l hm hx
    obtain ⟨a, ha, rfl, hl⟩ := Expr.mem_entries.mp hm
    exact hothers a ha hx l hl
  · rintro ⟨x, m, l, hm, hx, hshadows, hsub⟩
    obtain ⟨a, ha, rfl, hl⟩ := Expr.mem_entries.mp hm
    exact ⟨a, ha, m, l, hx, hl, hshadows, hsub⟩

theorem Expr.Aligned.inOrder_iff_keepsApart (h : e.Aligned lexemes) :
    e.InOrder lexemes ↔ e.KeepsApart lexemes := by
  constructor
  · intro horder a ha l hl
    exact (attributed_claims maxLevels e lexemes).apart_of_inOrder
      (Expr.inOrder_iff.mp horder) a.expr l
      (Expr.mem_entries.mpr ⟨a, ha, rfl, hl⟩)
  · intro hapart
    refine (h.inOrder_or_shadowed ?_).resolve_right ?_
    · intro a ha hx l hl
      rw [← hapart a ha l hl, hx]
    · rintro ⟨a, ha, m, l, hx, hl, hshadows, _⟩
      have hm := hapart a ha m hl
      rw [hx, hshadows.other] at hm
      cases hm

end

end SqlStyle.Grammar
