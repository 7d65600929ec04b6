import SqlStyle.Grammar.Answer
import SqlStyle.Proofs.Offsets.Tree

/-! # The suite over the grammar never fails hard

A well-formed answer of the grammar has lexemes inside the text and expressions that can be read
(`Answer.WellFormed`). Leaves claim lexemes of their statement only and inner nodes span their
children, so every node with a place starts where some lexeme does; statements are not empty, so a
syntax error is blamed on a lexeme too. The toolkit over such an answer is sound, and no built-in
check fails on it. -/

namespace SqlStyle

namespace Grammar

/-- The lexeme covers characters of the text. -/
def Lexeme.Inside (t : Text) (l : Lexeme) : Prop := 0 ≤ l.start ∧ l.start ≤ l.last ∧ l.last < t.size

theorem Lexeme.Inside.start_lt {t : Text} {l : Lexeme} (h : l.Inside t) :
    0 ≤ l.start ∧ l.start < t.size :=
  ⟨h.1, Int.lt_of_le_of_lt h.2.1 h.2.2⟩

/-- What is read off an expression is there, and likewise below it: the words of a join and the kind
of a creation are texts, and a literal says whether it is a string. -/
inductive Expr.Readable : Expr → Prop
  | mk {e : Expr} :
      (e.isA .join = true → ∀ value ∈ e.joinWords, ∃ word, value = .text word) →
      (e.isA .create = true → ∃ word, e.ask (.text "kind") = .text word) →
      (e.isA .literal = true → (e.args.lookup "is_string").isSome = true) →
      (∀ child ∈ e.children, Readable child) → Readable e

/-- The grammar came to expressions that can be read, or to an error of its own. -/
def Result.Proper : Result → Prop
  | .expressions es => ∀ e, some e ∈ es → e.Readable
  | .syntaxError _ _ => True
  | .failure _ => True
  | .raised _ => False

/-- The lexemes, if there are any, lie in the text, and every statement was answered. -/
structure Answer.WellFormed (a : Answer) (t : Text) : Prop where
  lexemes : ∀ lexemes, a.lexemes = .ok lexemes → ∀ l ∈ lexemes, l.Inside t
  results : ∀ result ∈ a.results, result.Proper

/-! ## Faults -/

namespace Expr

theorem Readable.nameFault?_eq_none {e : Expr} (h : e.Readable) : e.nameFault? = none := by
  obtain ⟨hjoin, hcreate, _, _⟩ := h
  unfold nameFault?
  split
  · rename_i hj
    refine List.findSome?_eq_none_iff.mpr ?_
    rintro ⟨value, index⟩ hmem
    obtain ⟨word, rfl⟩ := hjoin hj value (List.fst_mem_of_mem_zipIdx hmem)
    rfl
  · split
    · rename_i hc
      obtain ⟨word, hw⟩ := hcreate hc
      simp only [hw]
    · rfl

theorem Readable.claimFault?_eq_none {e : Expr} (h : e.Readable) : e.claimFault? = none := by
  obtain ⟨_, _, hliteral, _⟩ := h
  unfold claimFault?
  split
  · rename_i hmissing
    rw [Bool.and_eq_true, Bool.and_eq_true] at hmissing
    obtain ⟨⟨_, hlit⟩, hnone⟩ := hmissing
    have hsome := hliteral hlit
    rw [Option.isNone_iff_eq_none.mp hnone] at hsome
    cases hsome
  · rfl

theorem Readable.fault?_eq_none :
    ∀ (levels : Nat) {e : Expr}, e.Readable → e.fault? levels = none
  | 0, _, h => h.nameFault?_eq_none
  | levels + 1, e, h => by
    have hbelow : e.children.findSome? (fault? levels) = none := by
      obtain ⟨_, _, _, hchildren⟩ := h
      refine List.findSome?_eq_none_iff.mpr ?_
      intro child hm
      exact (hchildren child hm).fault?_eq_none levels
    rw [fault?, h.nameFault?_eq_none, h.claimFault?_eq_none, hbelow]
    rfl

end Expr

/-! ## Places -/

theorem claim_subset {p : Lexeme → Bool} {free : List Lexeme} :
    ∀ {l : Lexeme} {left : List Lexeme}, claim p free = some (l, left) →
        l ∈ free ∧ left ⊆ free := by
  induction free with
  | nil => intro l left h; cases h
  | cons first rest ih =>
    intro l left h
    unfold claim at h
    split at h
    · cases h
      exact ⟨List.mem_cons_self, List.subset_cons_self _ _⟩
    · obtain ⟨⟨m, others⟩, hfound, heq⟩ := Option.map_eq_some_iff.mp h
      cases heq
      obtain ⟨hm, hothers⟩ := ih hfound
      exact ⟨List.mem_cons_of_mem _ hm, List.cons_subset_cons _ hothers⟩

/-- Claiming by the first of two tests that some lexeme passes. -/
theorem claim_or_subset {p q : Lexeme → Bool} {free left : List Lexeme} {l : Lexeme}
    (h : (claim p free).or (claim q free) = some (l, left)) : l ∈ free ∧ left ⊆ free := by
  rcases Option.or_eq_some_iff.mp h with h | ⟨_, h⟩
  · exact claim_subset h
  · exact claim_subset h

theorem Expr.claim?_subset {e : Expr} {free left : List Lexeme} {l : Lexeme}
    (h : e.claim? free = some (l, left)) : l ∈ free ∧ left ⊆ free := by
  unfold Expr.claim? at h
  split at h
  · exact claim_or_subset h
  split at h
  · exact claim_or_subset h
  split at h
  · exact claim_subset h
  split at h
  · exact claim_subset h
  split at h
  · exact claim_subset h
  split at h
  · split at h
    · exact claim_subset h
    · cases h
  · cases h

variable {t : Text}

/-- A range that has a place starts at an index of the text. -/
def Range.Inside (t : Text) (r : Range) : Prop := 0 ≤ r.start → r.start < t.size

theorem Range.cover_inside {r : Range} (hr : r.Inside t) {n : Node} (hn : n.Placed t) :
    (r.cover n).Inside t := by
  unfold Range.cover
  split
  · rename_i hp
    have hstart := hn.start_lt hp
    intro h0
    dsimp only at h0 ⊢
    split at h0
    · rename_i hneg
      rw [if_pos hneg]
      exact hstart.2
    · rename_i hneg
      rw [if_neg hneg]
      omega
  · exact hr

theorem foldl_cover_inside {children : List Node} (h : ∀ n ∈ children, n.Placed t) (own : Range)
    (hown : own.Inside t) : (children.foldl Range.cover own).Inside t :=
  List.foldlRecOn (motive := Range.Inside t) children _ hown fun _ hr n hn =>
    Range.cover_inside hr (h n hn)

/-- The builder puts nodes in their place and hands on lexemes it was given. -/
def Places (t : Text) (build : Expr → List Lexeme → Node × List Lexeme) : Prop :=
  ∀ e free, (∀ l ∈ free, l.Inside t) → (build e free).1.Placed t ∧ (build e free).2 ⊆ free

theorem buildEach_places {build : Expr → List Lexeme → Node × List Lexeme} (h : Places t build)
    (es : List Expr) : ∀ free, (∀ l ∈ free, l.Inside t) →
      (∀ n ∈ (buildEach build es free).1, n.Placed t) ∧ (buildEach build es free).2 ⊆ free := by
  induction es with
  | nil => intro free _; exact ⟨by simp [buildEach], List.Subset.refl _⟩
  | cons e rest ih =>
    intro free hfree
    obtain ⟨hnode, hleft⟩ := h e free hfree
    obtain ⟨hnodes, hleft'⟩ := ih (build e free).2 fun l hl => hfree l (hleft hl)
    refine ⟨?_, List.Subset.trans hleft' hleft⟩
    intro n hn
    rcases List.mem_cons.mp hn with rfl | hn
    · exact hnode
    · exact hnodes n hn

theorem buildNode_places : ∀ levels : Nat, Places t (buildNode levels)
  | 0 => by
    intro e free _
    exact ⟨.mk (fun h => absurd h (by decide)) (by simp), List.Subset.refl _⟩
  | levels + 1 => by
    intro e free hfree
    have hbelow := buildEach_places (buildNode_places levels) e.children
    cases hclaim : e.claim? free with
    | none =>
      obtain ⟨hchildren, hleft⟩ := hbelow free hfree
      have hrange := foldl_cover_inside hchildren {} fun h => absurd h (by decide)
      simp only [buildNode, hclaim]
      exact ⟨.mk hrange hchildren, hleft⟩
    | some found =>
      obtain ⟨l, left⟩ := found
      obtain ⟨hl, hsub⟩ := Expr.claim?_subset hclaim
      obtain ⟨hchildren, hleft⟩ := hbelow left fun m hm => hfree m (hsub hm)
      have hrange := foldl_cover_inside hchildren ⟨l.start, l.stop⟩ fun _ => (hfree l hl).start_lt.2
      simp only [buildNode, hclaim]
      exact ⟨.mk hrange hchildren, List.Subset.trans hleft hsub⟩

theorem Expr.Readable.toNode_placed {e : Expr} (h : e.Readable) {run : List Lexeme}
    (hrun : ∀ l ∈ run, l.Inside t) : ∃ root, e.toNode run = .ok root ∧ root.Placed t := by
  rw [Expr.toNode, h.fault?_eq_none]
  exact ⟨_, rfl, (buildNode_places maxLevels e run hrun).1⟩

/-! ## Statements -/

theorem splitRuns_subset (lexemes : List Lexeme) :
    (splitRuns lexemes).1 ⊆ lexemes ∧ ∀ run ∈ (splitRuns lexemes).2, run ⊆ lexemes := by
  induction lexemes with
  | nil => exact ⟨List.Subset.refl _, by simp [splitRuns]⟩
  | cons l rest ih =>
    obtain ⟨hrun, hruns⟩ := ih
    simp only [splitRuns]
    split
    · refine ⟨List.nil_subset _, ?_⟩
      intro run hm
      rcases List.mem_cons.mp hm with rfl | hm
      · exact List.subset_cons_of_subset _ hrun
      · exact List.subset_cons_of_subset _ (hruns run hm)
    · exact ⟨List.cons_subset_cons _ hrun, fun run hm =>
        List.subset_cons_of_subset _ (hruns run hm)⟩

/-- A statement has a lexeme, and all of its lexemes are the document's. -/
theorem mem_statementRuns {lexemes run : List Lexeme} (h : run ∈ statementRuns lexemes) :
    run ≠ [] ∧ run ⊆ lexemes := by
  obtain ⟨hm, hne⟩ := List.mem_filter.mp h
  obtain ⟨hfirst, hrest⟩ := splitRuns_subset lexemes
  refine ⟨by simpa using hne, ?_⟩
  rcases List.mem_cons.mp hm with rfl | hm
  · exact hfirst
  · exact hrest run hm

/-- A syntax error is blamed on a lexeme of its statement. -/
theorem exists_blamed {run : List Lexeme} (hne : run ≠ []) (text : String)
    (details : List ErrorDetail) :
    ∃ l ∈ run, l.start = (syntaxErrorIn run text details).position := by
  obtain ⟨first, rest, rfl⟩ := List.exists_cons_of_ne_nil hne
  unfold syntaxErrorIn
  dsimp only
  cases hblamed : (first :: rest).find? fun l => some l.line == (details.head?.getD {}).line &&
      some l.column == (details.head?.getD {}).column with
  | none => exact ⟨first, List.mem_cons_self, rfl⟩
  | some l => exact ⟨l, List.mem_of_find?_eq_some hblamed, rfl⟩

section

variable {run : List Lexeme} (hne : run ≠ []) (hrun : ∀ l ∈ run, l.Inside t)

include hne hrun

theorem runStart_inside : 0 ≤ runStart run ∧ runStart run < t.size := by
  cases run with
  | nil => exact absurd rfl hne
  | cons l rest => exact (hrun l List.mem_cons_self).start_lt

theorem syntaxErrorIn_inside (text : String) (details : List ErrorDetail) :
    0 ≤ (syntaxErrorIn run text details).position ∧
      (syntaxErrorIn run text details).position < t.size := by
  obtain ⟨l, hl, heq⟩ := exists_blamed hne text details
  rw [← heq]
  exact (hrun l hl).start_lt

theorem rootOf_placed {es : List (Option Expr)} (hes : ∀ e, some e ∈ es → e.Readable) :
    ∃ root, rootOf run es = .ok root ∧ root.Placed t := by
  unfold rootOf
  split
  · rename_i e he
    obtain ⟨o, ho, rfl⟩ := List.exists_of_findSome?_eq_some he
    exact (hes e ho).toNode_placed hrun
  · exact ⟨_, rfl, .mk (fun _ => (runStart_inside hne hrun).2) (by simp)⟩

/-- A statement gets a tree in its place, or an error that is blamed on one of its lexemes. -/
theorem parseRun_cases {result : Result} (hresult : result.Proper) :
    (∃ statement, parseRun run result = .ok statement ∧ statement.root.Placed t) ∨
      ∃ e, parseRun run result = .error (.failed e) ∧ 0 ≤ e.position ∧ e.position < t.size := by
  cases result with
  | expressions es =>
    obtain ⟨root, hroot, hplaced⟩ := rootOf_placed hne hrun hresult
    refine .inl ⟨⟨root, runStart run, runStop run⟩, ?_, hplaced⟩
    simp only [parseRun, hroot]
  | syntaxError text details => exact .inr ⟨_, rfl, syntaxErrorIn_inside hne hrun text details⟩
  | failure text => exact .inr ⟨_, rfl, runStart_inside hne hrun⟩
  | raised text => exact hresult.elim

end

theorem parseRuns_inside (runs : List (List Lexeme))
    (hruns : ∀ run ∈ runs, run ≠ [] ∧ ∀ l ∈ run, l.Inside t) :
    ∀ results : List Result, (∀ result ∈ results, result.Proper) →
      (∀ statement ∈ (parseRuns runs results).statements, statement.root.Placed t) ∧
      ∀ stop, (parseRuns runs results).stop = some stop →
        ∃ e, stop = .failed e ∧ 0 ≤ e.position ∧ e.position < t.size := by
  induction runs with
  | nil => intro results _; exact ⟨by simp [parseRuns], by simp [parseRuns]⟩
  | cons run rest ih =>
    intro results hresults
    obtain ⟨hne, hrun⟩ := hruns run List.mem_cons_self
    -- a statement that the grammar says nothing about has no expressions
    have hfirst : (results.head?.getD (.expressions [])).Proper := by
      cases results with
      | nil => exact fun e he => by cases he
      | cons result others => exact hresults result List.mem_cons_self
    rcases parseRun_cases hne hrun hfirst with ⟨statement, hok, hplaced⟩ | ⟨e, herror, hposition⟩
    · obtain ⟨hroots, hstops⟩ := ih (fun other hm => hruns other (List.mem_cons_of_mem _ hm))
        results.tail fun result hm => hresults result (List.mem_of_mem_tail hm)
      simp only [parseRuns, hok]
      refine ⟨?_, hstops⟩
      intro other hm
      rcases List.mem_cons.mp hm with rfl | hm
      · exact hplaced
      · exact hroots other hm
    · simp only [parseRuns, herror]
      refine ⟨by simp, ?_⟩
      intro stop hstop
      cases hstop
      exact ⟨e, rfl, hposition⟩

/-- The toolkit over a well-formed answer is sound. -/
theorem toolkit_soundOn {answer : Text → Answer} (h : (answer t).WellFormed t) :
    (toolkit answer).SoundOn t := by
  cases hlexemes : (answer t).lexemes with
  | error text =>
    constructor
    · intro fault
      simp [toolkit, Answer.tokenize, hlexemes]
    · intro tokens htokens
      simp [toolkit, Answer.tokenize, hlexemes] at htokens
    · simp [toolkit, Answer.parse, hlexemes]
    · intro stop hstop
      simp only [toolkit, Answer.parse, hlexemes, Option.some.injEq] at hstop
      exact ⟨_, hstop.symm, Int.le_refl 0, Int.natCast_nonneg _⟩
  | ok lexemes =>
    have hinside := h.lexemes lexemes hlexemes
    obtain ⟨hroots, hstops⟩ := parseRuns_inside (t := t) (statementRuns lexemes)
      (fun run hm => ⟨(mem_statementRuns hm).1, fun l hl =>
        hinside l ((mem_statementRuns hm).2 hl)⟩)
      (answer t).results h.results
    constructor
    · intro fault
      simp [toolkit, Answer.tokenize, hlexemes]
    · intro tokens htokens token hm
      simp only [toolkit, Answer.tokenize, hlexemes, Except.ok.injEq] at htokens
      rw [← htokens] at hm
      obtain ⟨l, hl, rfl⟩ := List.mem_map.mp hm
      obtain ⟨h0, hlt⟩ := (hinside l hl).start_lt
      exact ⟨h0, Int.le_of_lt hlt⟩
    · simpa only [toolkit, Answer.parse, hlexemes] using hroots
    · intro stop hstop
      simp only [toolkit, Answer.parse, hlexemes] at hstop
      obtain ⟨e, rfl, h0, h1⟩ := hstops stop hstop
      exact ⟨e, rfl, h0, Int.le_of_lt h1⟩

end Grammar

/-- Over a sound toolkit every turn of the suite ends in a report, without failures and inside the
text. -/
theorem builtin_turns_clean {c : Context} {s : Source} (hs : s.Valid)
    (ht : c.toolkit.SoundOn s.text) :
    ∀ turn ∈ turns c s {} Check.builtin, ∃ found, turn.outcome = .ok found ∧ found.failures = [] ∧
      ∀ d ∈ found.diagnostics, d.offset ≤ s.text.size := by
  rw [Progress.turns_eq_alone c s Check.builtin (fun _ h => h) {} (Session.faithful_fresh _ _)]
  intro turn hturn
  obtain ⟨check, hm, rfl⟩ := List.mem_map.mp hturn
  exact Check.builtin_clean hs ht hm

/-- **The built-in suite never fails hard.** On every text, under all settings, and for every
well-formed answer of the grammar, checking the document with the whole suite gives a report without
failures. No check meets a fault, and whichever rules a ledger leaves active, every offset that a
check reports is one of the document. -/
theorem lint_builtin_failures_eq_nil (settings : Settings)
    (answer : Text → Grammar.Answer) (text : Text) (filename : Option String)
    (h : (answer text).WellFormed text) :
    (∃ p, lint settings Registry.builtin (Grammar.toolkit answer) text filename = .ok p ∧
      p.report.failures = []) ∧
    ∀ l : Ledger, ∀ turn ∈ turns ⟨settings, l, Grammar.toolkit answer⟩
      (settings.source text filename) {}
        Registry.builtin.checks,
      ∃ found, turn.outcome = .ok found ∧ found.failures = [] ∧
        ∀ d ∈ found.diagnostics, d.offset ≤ text.size := by
  have hs := Source.valid_of_settings settings text filename
  have hclean : ∀ l : Ledger, ∀ turn ∈ turns ⟨settings, l, Grammar.toolkit answer⟩
      (settings.source text filename) {} Registry.builtin.checks,
        ∃ found, turn.outcome = .ok found ∧
        found.failures = [] ∧ ∀ d ∈ found.diagnostics, d.offset ≤ text.size :=
    fun l => builtin_turns_clean hs (Grammar.toolkit_soundOn h)
  refine ⟨?_, hclean⟩
  obtain ⟨l, hl, _⟩ := Directive.ledger_spec (settings.source text filename) settings.lockedRules
  refine ⟨_, lint_eq_turns settings Registry.builtin (Grammar.toolkit answer) text filename hl, ?_⟩
  have hturns : (turns ⟨settings, l, Grammar.toolkit answer⟩ (settings.source text filename) {}
      Registry.builtin.checks).flatMap (Turn.failures filename) = [] := by
    refine List.flatMap_eq_nil_iff.mpr ?_
    intro turn hturn
    obtain ⟨found, hfound, hnone, _⟩ := hclean l turn hturn
    simp only [Turn.failures, hfound, hnone]
  simp only [Report.sort, Report.merge, Report.ofTurns, Progress.opening_failures settings hs,
    hturns, List.append_nil]

/-- A join without a type: its table is a name, and the word before it is found by looking back. -/
theorem lint_builtin_failures_eq_nil_join :
    let text : Text := #['J', 'O', 'I', 'N', ' ', 'b']
    let table : Grammar.Expr :=
      .mk ⟨"Identifier", ["this"], [.identifier]⟩ [("this", .text "b")] [(.name, .text "b")]
    let join : Grammar.Expr :=
      .mk ⟨"Join", ["this"], [.join]⟩ [("this", .expr table)] [(.name, .text "b")]
    let answer : Grammar.Answer :=
      { lexemes := .ok [⟨"JOIN", "JOIN", 1, 4, 0, 3⟩, ⟨"VAR", "b", 1, 6, 5, 5⟩]
        keywords := ["JOIN"]
        results := [.expressions [none, some join]] }
    answer.WellFormed text ∧
      (∃ p, lint {} Registry.builtin (Grammar.toolkit fun _ => answer) text none = .ok p ∧
        p.report.failures = []) := by
  intro text table join answer
  have htable : table.Readable := by
    refine .mk (fun h => ?_) (fun h => ?_) (fun h => ?_) ?_
    · cases h
    · cases h
    · cases h
    · intro child hm
      cases hm
  have hwell : answer.WellFormed text := by
    constructor
    · intro lexemes h l hl
      cases h
      simp only [List.mem_cons, List.not_mem_nil, or_false] at hl
      rcases hl with rfl | rfl <;> simp [Grammar.Lexeme.Inside, text]
    · intro result hm
      rw [List.mem_singleton.mp hm]
      intro e he
      simp only [List.mem_cons, Option.some.injEq, List.not_mem_nil, or_false, reduceCtorEq,
        false_or] at he
      subst he
      refine .mk (fun _ value hvalue => ?_) (fun h => ?_) (fun h => ?_) ?_
      · cases hvalue
      · cases h
      · cases h
      · intro child hm
        obtain rfl : child = table := List.mem_singleton.mp hm
        exact htable
  exact ⟨hwell, (lint_builtin_failures_eq_nil {} (fun _ => answer) text none hwell).1⟩

end SqlStyle
