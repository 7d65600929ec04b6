import SqlStyle.Proofs.Occurrences
import SqlStyle.Proofs.ParseFailure
import SqlStyle.Proofs.Statements

/-! # Keywords that are taken for names

The checks of keywords ask where the identifiers of the trees start. An identifier starts where the
lexeme does that it claimed, and lexemes that follow one another start at different places; so a
keyword is taken for a name only if an identifier of its own statement claimed it. A statement whose
identifiers claim their lexemes in order has no such keyword. -/

namespace SqlStyle.Grammar

/-! ## Where identifiers start -/

/-- What becomes an identifier node is an identifier and has no parts. -/
def Expr.PlainIdentifiers (e : Expr) : Prop :=
  ∀ x ∈ e.visited maxLevels, x.kind = .identifier → x.isA .identifier = true ∧ x.children = []

/-- An identifier node stands where the lexeme starts that its identifier claimed. -/
theorem Expr.PlainIdentifiers.exists_claim {e : Expr} (h : e.PlainIdentifiers)
    {lexemes : List Lexeme} {n : Node} (hn : e.toNode lexemes = .ok n) {m : Node} (hm : m ∈ n.walk)
    (hkind : m.kind = .identifier) (hplace : m.isPositioned = true) :
    ∃ a ∈ (e.attribution lexemes).subtrees, a.expr.isA .identifier = true ∧
      ∃ l ∈ lexemes, a.lexeme? = some l ∧ l.start = m.start := by
  rw [e.walk_eq_subtrees hn] at hm
  obtain ⟨a, ha, rfl⟩ := List.mem_map.mp hm
  have hexpr : a.expr ∈ e.visited maxLevels := by
    rw [← attributed_exprs maxLevels e lexemes]
    exact List.mem_map_of_mem ha
  obtain ⟨hid, hleaf⟩ := h a.expr hexpr (by cases a; exact hkind)
  have hparts := attributed_subtrees maxLevels e lexemes a ha hleaf
  have hchildren : a.node.children = [] := by
    cases a
    simp only [Attribution.parts] at hparts
    simp only [Attribution.node, Node.children, hparts, Attribution.nodes]
  obtain ⟨l, hl, hstart, _⟩ := Attribution.exists_lexeme_of_leaf hchildren hplace
  have hperm := (attributed_claims maxLevels e lexemes).perm
  rw [Attribution.filterMap_entry] at hperm
  have hmem : l ∈ lexemes :=
    hperm.subset (List.mem_append_left _ (List.mem_filterMap.mpr ⟨a, ha, hl⟩))
  exact ⟨a, ha, hid, l, hmem, hl, hstart.symm⟩

theorem identifierStarts_eq (statements : List Statement) :
    identifierStarts statements = ((statements.flatMap (·.root.walk)).filter fun n =>
      n.kind == .identifier && n.isPositioned).map Node.start := by
  have hnodes : statements.flatMap (·.root.walk) = (visitsOf statements).map Node.Visit.node := by
    rw [visitsOf, List.map_flatMap]
    rfl
  rw [hnodes, List.filter_map, List.map_map]
  rfl

/-- The grammar answers a statement of the document with an expression. -/
def Answer.Reads (a : Answer) (run : List Lexeme) (e : Expr) : Prop :=
  ∃ lexemes es, a.lexemes = .ok lexemes ∧
    (run, .expressions es) ∈ answered (statementRuns lexemes) a.results ∧ es.findSome? id = some e

/-- The lexemes lie in the text one after the other, identifiers are plain, and the parser does not
give up. -/
structure Answer.Orderly (a : Answer) (t : Text) : Prop where
  consecutive : ∀ lexemes, a.lexemes = .ok lexemes → Consecutive lexemes
  inside : ∀ lexemes, a.lexemes = .ok lexemes → ∀ l ∈ lexemes, l.Inside t
  plain : ∀ run e, a.Reads run e → e.PlainIdentifiers
  read : ∀ fault, a.parse.stop ≠ some (.gaveUp fault)

/-- Lexemes one after the other are told apart by where they start. -/
theorem Consecutive.start_injective {lexemes : List Lexeme} (h : Consecutive lexemes) {l m : Lexeme}
    (hl : l ∈ lexemes) (hm : m ∈ lexemes) (heq : l.start = m.start) : l = m := by
  have hstarts : (lexemes.map Lexeme.start).Pairwise (· < ·) := by
    refine List.pairwise_map.mpr (h.pairwise.imp_of_mem ?_)
    intro a b ha _ hab
    have := (h.range a ha).2
    omega
  exact List.inj_on_of_nodup_map (hstarts.imp ne_of_lt) hl hm heq

theorem subset_of_answered {lexemes : List Lexeme} {results : List Result}
    {x : List Lexeme × Result} (hx : x ∈ answered (statementRuns lexemes) results) :
    x.1 ⊆ lexemes := by
  have hrun : x.1 ∈ statementRuns lexemes := by
    rw [← answered_map_fst (statementRuns lexemes) results]
    exact List.mem_map_of_mem hx
  exact (mem_statementRuns hrun).2

/-- Different statements have no lexeme in common. -/
theorem Consecutive.answered_disjoint {lexemes : List Lexeme} (h : Consecutive lexemes)
    (results : List Result) :
    (answered (statementRuns lexemes) results).Pairwise fun x y => ∀ l ∈ x.1, l ∉ y.1 := by
  have hflat := h.pairwise.filter (!·.isSemicolon)
  rw [← (runs_statementRuns lexemes).flatten_eq, List.pairwise_flatten] at hflat
  have houter := hflat.2
  rw [← answered_map_fst (statementRuns lexemes) results, List.pairwise_map] at houter
  refine houter.imp_of_mem ?_
  intro x y hx _ hxy l hl hl'
  have hrange := (h.range l (subset_of_answered hx hl)).2
  have hfollows := hxy l hl l hl'
  omega

section

variable {a : Answer} {t : Text} (h : a.Orderly t)

include h

/-- Where an identifier was seen, an identifier of some statement claimed a lexeme. -/
theorem Answer.Orderly.exists_claim {p : Int} (hp : p ∈ identifierStarts a.parse.statements) :
    ∃ run e, a.Reads run e ∧ ∃ b ∈ (e.attribution run).subtrees, b.expr.isA .identifier = true ∧
      ∃ l ∈ run, b.lexeme? = some l ∧ l.start = p := by
  rw [identifierStarts_eq] at hp
  obtain ⟨n, hfound, rfl⟩ := List.mem_map.mp hp
  obtain ⟨hwalk, hid⟩ := List.mem_filter.mp hfound
  obtain ⟨u, hu, hn⟩ := List.mem_flatMap.mp hwalk
  obtain ⟨hkind, hplace⟩ := Bool.and_eq_true_iff.mp hid
  rw [beq_iff_eq] at hkind
  unfold Answer.parse at hu
  split at hu
  · rename_i lexemes hlexemes
    obtain ⟨accepted, rest, hsplit, hunits, _⟩ :=
      parseRuns_split (statementRuns lexemes) (runs_statementRuns lexemes).ne_nil a.results
    obtain ⟨⟨run, result⟩, hm, hrun⟩ := exists_run_of_mem hunits u hu
    obtain ⟨es, rfl, hroot⟩ := hrun.root
    have hanswered : (run, Result.expressions es) ∈ answered (statementRuns lexemes) a.results := by
      rw [hsplit]
      exact List.mem_append_left _ hm
    unfold rootOf at hroot
    split at hroot
    · rename_i e he
      have hreads : a.Reads run e := ⟨lexemes, es, hlexemes, hanswered, he⟩
      exact ⟨run, e, hreads, (h.plain run e hreads).exists_claim hroot hn hkind hplace⟩
    · -- a statement without expressions has one node, which is no identifier
      rw [Node.walk_eq_preorder, ← Except.ok.inj hroot] at hn
      obtain rfl := List.mem_singleton.mp hn
      cases hkind
  · cases hu

/-- Where a lexeme starts decides which one it is, and in which statement. -/
theorem Answer.Orderly.reads_unique {run run' : List Lexeme} {e e' : Expr} (hreads : a.Reads run e)
    (hreads' : a.Reads run' e') {l m : Lexeme} (hl : l ∈ run) (hm : m ∈ run')
    (heq : l.start = m.start) :
    run = run' ∧ e = e' ∧ l = m := by
  obtain ⟨lexemes, es, hlexemes, hrun, he⟩ := hreads
  obtain ⟨lexemes', es', hlexemes', hrun', he'⟩ := hreads'
  obtain rfl : lexemes = lexemes' := Except.ok.inj (hlexemes.symm.trans hlexemes')
  have hrow := h.consecutive lexemes hlexemes
  obtain rfl := hrow.start_injective (subset_of_answered hrun hl) (subset_of_answered hrun' hm) heq
  have hsame : (run, Result.expressions es) = (run', Result.expressions es') := by
    have : Std.Symm fun x y : List Lexeme × Result => ∀ b ∈ x.1, b ∉ y.1 :=
      ⟨fun x y hxy b hb hb' => hxy b hb' hb⟩
    by_contra hne
    exact (hrow.answered_disjoint a.results).forall hrun hrun' hne l hl hm
  obtain ⟨rfl, hes⟩ := Prod.mk.inj hsame
  obtain rfl := Result.expressions.inj hes
  exact ⟨rfl, Option.some.inj (he.symm.trans he'), rfl⟩

/-- A keyword of a statement that keeps apart stands at no identifier. -/
theorem Answer.Orderly.not_mem_identifierStarts {run : List Lexeme} {e : Expr}
    (hreads : a.Reads run e) (hapart : e.KeepsApart run) {k : Lexeme} (hk : k ∈ run)
    (hkeyword : k.isKeyword a.keywords = true) :
    k.start ∉ identifierStarts a.parse.statements := by
  intro hstart
  obtain ⟨run', e', hreads', b, hb, hid, l, hl, hclaimed, heq⟩ := h.exists_claim hstart
  obtain ⟨rfl, rfl, rfl⟩ := h.reads_unique hreads' hreads hl hk heq
  have hsame := hapart b hb l hclaimed
  rw [hid] at hsame
  simp [Lexeme.isKeyword, ← hsame] at hkeyword

end

/-! ## The checks of keywords -/

theorem exists_bareKeyword_iff {starts : List Int} {token : Token} {p : Int} :
    (∃ f ∈ Check.bareKeyword starts token, f.offset = p) ↔ token.start = p ∧ p ∈ starts := by
  unfold Check.bareKeyword
  split
  · rename_i hstart
    simp only [List.mem_singleton, exists_eq_left]
    exact ⟨fun heq => ⟨heq, heq ▸ List.contains_iff_mem.mp hstart⟩, And.left⟩
  · rename_i hstart
    simp only [List.not_mem_nil, false_and, exists_false, false_iff]
    rintro ⟨rfl, hmem⟩
    exact hstart (List.contains_iff_mem.mpr hmem)

theorem exists_wrongCase_iff {upper : Bool} {starts : List Int} {token : Token} {p : Int} :
    (∃ f ∈ Check.wrongCase upper starts token, f.offset = p) ↔
      token.start = p ∧ p ∉ starts ∧ Check.isConsistent upper token.text = false := by
  simp only [Check.wrongCase]
  split
  · rename_i hfine
    simp only [List.not_mem_nil, false_and, exists_false, false_iff]
    rintro ⟨rfl, hstart, hcase⟩
    simp [hstart, hcase] at hfine
  · rename_i hwrong
    simp only [Bool.or_eq_true, not_or, List.contains_iff_mem, Bool.not_eq_true] at hwrong
    simp only [List.mem_singleton, exists_eq_left]
    exact ⟨fun heq => ⟨heq, heq ▸ hwrong.1, hwrong.2⟩, And.left⟩

/-- The keywords of a document among the tokens of its lexemes. -/
def Answer.keywordTokens (a : Answer) (lexemes : List Lexeme) (t : Text) : List Token :=
  (lexemes.map (Lexeme.token a.keywords t)).filter (·.kind == .keyword)

theorem Answer.mem_keywordTokens {a : Answer} {lexemes : List Lexeme} {t : Text} {token : Token} :
    token ∈ a.keywordTokens lexemes t ↔
      ∃ k ∈ lexemes, k.isKeyword a.keywords = true ∧ k.token a.keywords t = token := by
  simp only [keywordTokens, List.mem_filter, List.mem_map]
  constructor
  · rintro ⟨⟨k, hk, rfl⟩, hkind⟩
    refine ⟨k, hk, ?_, rfl⟩
    by_contra hno
    simp only [Lexeme.token, Lexeme.kind, hno] at hkind
    split at hkind
    · cases hkind
    · cases hkind
  · rintro ⟨k, hk, hkeyword, rfl⟩
    have hid : k.isIdentifier = false := by
      simp only [Lexeme.isKeyword, Bool.and_eq_true] at hkeyword
      simpa using hkeyword.1.1.1
    refine ⟨⟨k, hk, rfl⟩, ?_⟩
    simp [Lexeme.token, Lexeme.kind, hid, hkeyword]

section

variable {answer : Text → Answer} {s : Source} (hs : s.Valid) (h : (answer s.text).Orderly s.text)

include h

/-- A new parse has all statements, or none. -/
theorem statements_toolkit : ∃ statements,
    (({} : Session).statements (toolkit answer) s.text).1 = .ok statements ∧
      identifierStarts statements ⊆ identifierStarts (answer s.text).parse.statements := by
  cases hstop : (answer s.text).parse.stop with
  | none => exact ⟨_, Session.statements_of_complete hstop, List.Subset.refl _⟩
  | some stop =>
    cases stop with
    | failed e => exact ⟨_, Session.statements_of_failed hstop, List.nil_subset _⟩
    | gaveUp fault => exact absurd hstop (h.read fault)

include hs

/-- A check of keywords finds something at the keywords to which it objects, given starts of
identifiers that a parse finds. -/
theorem reportKeywords_toolkit {lexemes : List Lexeme}
    (hlexemes : (answer s.text).lexemes = .ok lexemes) (rule : Rule)
    (detect : List Int → Token → List Finding) (settings : Settings) (l : Ledger)
    {session : Session} (hsession : session.Faithful (toolkit answer) s.text) :
    ∃ starts ⊆ identifierStarts (answer s.text).parse.statements, ∃ found,
      (Check.reportKeywords rule detect ⟨settings, l, toolkit answer⟩ s session).1 = .ok found ∧
      ∀ p : Int, (∃ d ∈ found.diagnostics, (d.offset : Int) = p) ↔
        (0 ≤ p ∧ p ≤ s.text.size) ∧ l.isActive rule p = true ∧
          ∃ k ∈ lexemes, k.isKeyword (answer s.text).keywords = true ∧
            ∃ f ∈ detect starts (k.token (answer s.text).keywords s.text), f.offset = p := by
  obtain ⟨statements, hstatements, hsub⟩ := statements_toolkit h
  have hkeywords : Check.keywordsOf ⟨settings, l, toolkit answer⟩ s =
      .ok ((answer s.text).keywordTokens lexemes s.text) := by
    simp only [Check.keywordsOf, toolkit, Answer.tokenize, hlexemes]
    rfl
  have hrun : (Check.reportKeywords rule detect ⟨settings, l, toolkit answer⟩ s session).1 =
      l.report rule s
      (((answer s.text).keywordTokens lexemes s.text).flatMap
          (detect (identifierStarts statements))) := by
    rw [(Check.reportKeywords_independent rule detect _ s hsession).1,
      Check.reportKeywords_fresh rule detect hstatements, hkeywords]
    rfl
  refine ⟨_, hsub, _, hrun.trans (Ledger.report_eq hs l rule _), fun p => ?_⟩
  rw [Report.exists_diagnostic_iff hs]
  constructor
  · rintro ⟨f, hf, hinside, rfl⟩
    obtain ⟨hf, hactive⟩ := List.mem_filter.mp hf
    obtain ⟨token, htoken, hfound⟩ := List.mem_flatMap.mp hf
    obtain ⟨k, hk, hkeyword, rfl⟩ := Answer.mem_keywordTokens.mp htoken
    exact ⟨hinside, hactive, k, hk, hkeyword, f, hfound, rfl⟩
  · rintro ⟨hinside, hactive, k, hk, hkeyword, f, hfound, rfl⟩
    have htoken : k.token (answer s.text).keywords s.text ∈
        (answer s.text).keywordTokens lexemes s.text :=
      Answer.mem_keywordTokens.mpr ⟨k, hk, hkeyword, rfl⟩
    exact ⟨f, List.mem_filter.mpr ⟨List.mem_flatMap.mpr ⟨_, htoken, hfound⟩, hactive⟩, hinside, rfl⟩

variable {run : List Lexeme} {e : Expr} (hreads : (answer s.text).Reads run e)
    (hapart : e.KeepsApart run)
  (settings : Settings) (l : Ledger) {session : Session}
  (hsession : session.Faithful (toolkit answer) s.text)

include hreads hapart hsession

/-- No keyword of a statement that keeps apart is reported as a name. -/
theorem keywordIdentifier_of_keepsApart :
    ∃ found, (Check.keywordIdentifier.run ⟨settings, l, toolkit answer⟩ s session).1 = .ok found ∧
      ∀ k ∈ run, k.isKeyword (answer s.text).keywords = true →
        ¬ ∃ d ∈ found.diagnostics, (d.offset : Int) = k.start := by
  have ⟨lexemes, _, hlexemes, _⟩ := hreads
  unfold Check.keywordIdentifier
  dsimp only
  split
  · obtain ⟨starts, hstarts, found, hrun, hfound⟩ :=
      reportKeywords_toolkit hs h hlexemes .keywordIdentifier Check.bareKeyword settings l hsession
    refine ⟨found, hrun, ?_⟩
    intro k hk hkeyword hreported
    obtain ⟨_, _, k', _, _, hbare⟩ := (hfound k.start).mp hreported
    exact h.not_mem_identifierStarts hreads hapart hk hkeyword
      (hstarts (exists_bareKeyword_iff.mp hbare).2)
  · exact ⟨_, rfl, fun k _ _ ⟨d, hd, _⟩ => List.not_mem_nil hd⟩

/-- A keyword of a statement that keeps apart is judged by its letter case. -/
theorem letterCase_of_keepsApart :
    ∃ found, (Check.letterCase.run ⟨settings, l, toolkit answer⟩ s session).1 = .ok found ∧
      ∀ k ∈ run, k.isKeyword (answer s.text).keywords = true →
        ((∃ d ∈ found.diagnostics, (d.offset : Int) = k.start) ↔
          l.isActive .letterCase k.start = true ∧
          Check.isConsistent settings.upperKeyword (s.text.sliceInt k.start k.stop) = false) := by
  have ⟨lexemes, _, hlexemes, hanswered, _⟩ := hreads
  obtain ⟨starts, hstarts, found, hrun, hfound⟩ :=
    reportKeywords_toolkit hs h hlexemes .letterCase (Check.wrongCase settings.upperKeyword)
      settings l hsession
  refine ⟨found, hrun, ?_⟩
  intro k hk hkeyword
  have hmem := subset_of_answered hanswered hk
  rw [hfound]
  constructor
  · rintro ⟨_, hactive, k', hk', _, hwrong⟩
    obtain ⟨hstart, _, hcase⟩ := exists_wrongCase_iff.mp hwrong
    obtain rfl := (h.consecutive lexemes hlexemes).start_injective hk' hmem hstart
    exact ⟨hactive, hcase⟩
  · rintro ⟨hactive, hcase⟩
    obtain ⟨hlow, hhigh⟩ := (h.inside lexemes hlexemes k hmem).start_lt
    have hno := fun hstart => h.not_mem_identifierStarts hreads hapart hk hkeyword (hstarts hstart)
    exact ⟨⟨hlow, hhigh.le⟩, hactive, k, hmem, hkeyword, exists_wrongCase_iff.mpr ⟨rfl, hno, hcase⟩⟩

end

/-- **Which occurrence an identifier claims.** Let the identifiers of a statement be written as its
identifier lexemes are. They claim those lexemes, one by one and in order, exactly if identifiers
and the other expressions keep to lexemes of their own sort. While the others do, it is enough that
no identifier lexeme is spelled like an earlier lexeme that is neither identifier nor literal. Once
they are claimed in order, no keyword of the statement is taken for a name, in whatever document it
stands: the check of names reports none of them, and the check of letter case exempts none. -/
theorem identifiers_claim_in_order (e : Expr) (lexemes : List Lexeme)
    (haligned : e.Aligned lexemes) :
    (e.InOrder lexemes ↔ e.KeepsApart lexemes) ∧
    ((∀ a ∈ (e.attribution lexemes).subtrees, a.expr.isA .identifier = false →
        ∀ l, a.lexeme? = some l → l.isIdentifier = false) →
      lexemes.Pairwise (fun m l => ¬ m.Shadows l) → e.InOrder lexemes) ∧
    (e.InOrder lexemes → ∀ (answer : Text → Answer) (settings : Settings) (l : Ledger) (s : Source)
      (session : Session), s.Valid → (answer s.text).Orderly s.text →
        (answer s.text).Reads lexemes e →
      session.Faithful (toolkit answer) s.text →
      ∃ names cases, (Check.keywordIdentifier.run ⟨settings, l, toolkit answer⟩ s session).1 =
        .ok names ∧
        (Check.letterCase.run ⟨settings, l, toolkit answer⟩ s session).1 = .ok cases ∧
        ∀ k ∈ lexemes, k.isKeyword (answer s.text).keywords = true →
          (¬ ∃ d ∈ names.diagnostics, (d.offset : Int) = k.start) ∧
          ((∃ d ∈ cases.diagnostics, (d.offset : Int) = k.start) ↔
            l.isActive .letterCase k.start = true ∧
            Check.isConsistent settings.upperKeyword (s.text.sliceInt k.start k.stop) =
                false)) := by
  refine ⟨haligned.inOrder_iff_keepsApart, ?_, ?_⟩
  · intro hothers hspelling
    refine (haligned.inOrder_or_shadowed hothers).resolve_right ?_
    rintro ⟨a, _, m, l, _, _, hshadows, hsub⟩
    exact List.pairwise_iff_forall_sublist.mp hspelling hsub hshadows
  · intro horder answer settings l s session hs horderly hreads hsession
    have hapart := haligned.inOrder_iff_keepsApart.mp horder
    obtain ⟨names, hnames, hsilent⟩ :=
      keywordIdentifier_of_keepsApart hs horderly hreads hapart settings l hsession
    obtain ⟨cases, hcases, hjudged⟩ :=
      letterCase_of_keepsApart hs horderly hreads hapart settings l hsession
    exact ⟨names, cases, hnames, hcases, fun k hk hkeyword =>
      ⟨hsilent k hk hkeyword, hjudged k hk hkeyword⟩⟩

/-- One column of the table `t`. -/
def selection (column : String) : Expr :=
  let named (cls : ExprClass) (this : Value) (name : String) : Value :=
    .expr (.mk cls [("this", this)] [(.name, .text name)])
  let identifier (s : String) : Value := named ⟨"Identifier", ["this"], [.identifier]⟩ (.text s) s
  let table : Value := named ⟨"Table", ["this"], []⟩ (identifier "t") "t"
  .mk ⟨"Select", ["expressions", "from"], []⟩
    [("expressions", .list [named ⟨"Column", ["this"], []⟩ (identifier column) column]),
      ("from", named ⟨"From", ["this"], []⟩ table "t")] []

/-- A column named like the keyword after it. -/
theorem identifiers_claim_in_order_quoted :
    let e := selection "from"
    let lexemes : List Lexeme :=
      [⟨"SELECT", "SELECT", 1, 6, 0, 5⟩, ⟨"IDENTIFIER", "from", 1, 13, 7, 12⟩,
      ⟨"FROM", "from", 1, 18, 14, 17⟩, ⟨"VAR", "t", 1, 20, 19, 19⟩]
    let answer : Answer :=
      { lexemes := .ok lexemes, keywords := ["SELECT", "FROM"], results := [.expressions [some e]] }
    let s := ({} : Settings).source "SELECT `from` from t".toList.toArray none
    let c : Context := ⟨{}, Ledger.start [], toolkit fun _ => answer⟩
    e.Aligned lexemes ∧ e.InOrder lexemes ∧ answer.Orderly s.text ∧ answer.Reads lexemes e ∧
      ∃ names cases, (Check.keywordIdentifier.run c s {}).1 = .ok names ∧
        (Check.letterCase.run c s {}).1 = .ok cases ∧
        (¬ ∃ d ∈ names.diagnostics, (d.offset : Int) = 14) ∧
            ∃ d ∈ cases.diagnostics, (d.offset : Int) = 14 := by
  intro e lexemes answer s c
  have haligned : e.Aligned lexemes := ⟨by decide +kernel, by decide +kernel⟩
  have hothers : ∀ a ∈ (e.attribution lexemes).subtrees, a.expr.isA .identifier = false →
      ∀ l, a.lexeme? = some l → l.isIdentifier = false := by
    have hnone : (e.attribution lexemes).subtrees.all
        (fun a => a.expr.isA .identifier || a.lexeme?.isNone) = true := by
      decide +kernel
    intro a ha hid l hl
    have := List.all_eq_true.mp hnone a ha
    simp [hid, hl] at this
  obtain ⟨_, hspelled, hchecks⟩ := identifiers_claim_in_order e lexemes haligned
  have horder := hspelled hothers (by decide +kernel)
  have hone : answered (statementRuns lexemes) answer.results =
      [(lexemes, .expressions [some e])] := rfl
  have hreads : answer.Reads lexemes e :=
    ⟨lexemes, [some e], rfl, hone ▸ List.mem_singleton_self _, rfl⟩
  have hplain : e.PlainIdentifiers := by
    have hall : (e.visited maxLevels).all
        (fun x => x.kind != .identifier || x.isA .identifier && x.children.isEmpty) = true := by
      decide +kernel
    intro x hx hkind
    have := List.all_eq_true.mp hall x hx
    simpa [hkind] using this
  have horderly : answer.Orderly s.text := by
    refine ⟨?_, ?_, ?_, ?_⟩
    · rintro _ ⟨⟩
      exact ⟨by decide, by decide⟩
    · rintro _ ⟨⟩
      unfold Lexeme.Inside
      decide +kernel
    · rintro run x ⟨_, es, ⟨⟩, hm, hx⟩
      rw [hone, List.mem_singleton, Prod.mk.injEq, Result.expressions.injEq] at hm
      obtain ⟨_, rfl⟩ := hm
      obtain rfl := Option.some.inj hx
      exact hplain
    · intro fault hstop
      have hnone : answer.parse.stop = none := by decide +kernel
      rw [hnone] at hstop
      cases hstop
  obtain ⟨names, cases, hnames, hcases, hkeywords⟩ :=
    hchecks horder (fun _ => answer) {} (Ledger.start []) s {}
    (Source.valid_of_settings _ _ _) horderly hreads (Session.faithful_fresh _ _)
  have hk : (⟨"FROM", "from", 1, 18, 14, 17⟩ : Lexeme) ∈ lexemes := by simp [lexemes]
  obtain ⟨hsilent, hjudged⟩ := hkeywords _ hk (by decide +kernel)
  exact ⟨haligned, horder, horderly, hreads, names, cases, hnames, hcases, hsilent,
    hjudged.mpr ⟨rfl, by decide +kernel⟩⟩

/-- A column named like the keyword before it: it claims the keyword, which is then reported as a
name and exempt from the letter case that it violates. -/
theorem identifier_claims_keyword :
    let e := selection "select"
    let lexemes : List Lexeme :=
      [⟨"SELECT", "select", 1, 6, 0, 5⟩, ⟨"IDENTIFIER", "select", 1, 15, 7, 14⟩,
      ⟨"FROM", "FROM", 1, 20, 16, 19⟩, ⟨"VAR", "t", 1, 22, 21, 21⟩]
    let answer : Answer :=
      { lexemes := .ok lexemes, keywords := ["SELECT", "FROM"], results := [.expressions [some e]] }
    let s := ({} : Settings).source "select `select` FROM t".toList.toArray none
    let c : Context := ⟨{}, Ledger.start [], toolkit fun _ => answer⟩
    e.Aligned lexemes ∧ ¬ e.InOrder lexemes ∧
      (Check.keywordIdentifier.run c s {}).1 = c.ledger.report .keywordIdentifier s [⟨0,
        "Identifier `select` is an SQL keyword. Change the name or escape with backticks (`)"⟩] ∧
      (Check.letterCase.run c s {}).1 = .ok (Report.forSource s) := by
  intro e lexemes answer s c
  have hstop : (c.toolkit.parse s.text).stop = none := by decide +kernel
  have hkeywords : Check.keywordsOf c s = .ok (answer.keywordTokens lexemes s.text) := rfl
  have hstarts : identifierStarts (c.toolkit.parse s.text).statements = [0, 21] := by
    simp only [identifierStarts_eq, Node.walk_eq_preorder]
    decide +kernel
  have hrun : ∀ rule detect, (Check.reportKeywords rule detect c s {}).1 =
      c.ledger.report rule s ((answer.keywordTokens lexemes s.text).flatMap (detect [0, 21])) := by
    intro rule detect
    rw [Check.reportKeywords_fresh rule detect (Session.statements_of_complete hstop),
      hkeywords, hstarts]
    rfl
  refine ⟨⟨by decide +kernel, by decide +kernel⟩, ?_, ?_, ?_⟩
  · unfold Expr.InOrder
    decide +kernel
  · have henabled : c.parserEnabled = true := rfl
    have hfound : (answer.keywordTokens lexemes s.text).flatMap (Check.bareKeyword [0, 21]) = [⟨0,
        "Identifier `select` is an SQL keyword. Change the name or escape with backticks (`)"⟩] :=
      by decide +kernel
    simp only [Check.keywordIdentifier, henabled, if_true, hrun, hfound]
  · have hfound : (answer.keywordTokens lexemes s.text).flatMap
        (Check.wrongCase c.settings.upperKeyword [0, 21]) =
        [] := by
      decide +kernel
    simp only [Check.letterCase, hrun, hfound]
    rfl

end SqlStyle.Grammar
