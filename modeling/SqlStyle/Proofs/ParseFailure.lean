import Mathlib.Data.List.Nodup
import SqlStyle.Proofs.ParseCache

/-! # A document that does not parse

When some statement does not parse, the statements before it are lost on every check: a new parse
gives none, and nothing is ever kept. So the checks of syntax trees find nothing, the check of
parsing has one entry, and to the check of letter case every keyword is a keyword. The checks of the
text alone do not notice. -/

namespace SqlStyle

/-- The report has exactly one entry, on an issue at an offset: a diagnostic there, or a failure
that names the offset if it lies outside the document. -/
inductive Report.IsEntry (s : Source) (rule : Rule) (offset : Int) (message : String) (r : Report) :
    Prop
  | inside (d : Diagnostic) : offset ≤ s.text.size → r.diagnostics = [d] → r.failures = [] →
      d.rule = rule → (d.offset : Int) = offset → d.message = message →
        IsEntry s rule offset message r
  | outside (f : Failure) : ¬ (0 ≤ offset ∧ offset ≤ s.text.size) → r.diagnostics = [] →
      r.failures = [f] → f.rule = some rule →
      f.message = s!"{(PositionError.outside offset s.text.size).message}: {message}" →
      IsEntry s rule offset message r

theorem Report.isEntry_ofFindings {s : Source} (hs : s.Valid) (rule : Rule) (offset : Int)
    (message : String) : (ofFindings rule s [⟨offset, message⟩]).IsEntry s rule offset message := by
  rcases Source.translate_cases hs offset with ⟨h0, h1, p, hp, _⟩ | ⟨hout, herr⟩
  · refine .inside ⟨rule, offset.toNat, p.line, p.column.toNat, message, s.filename⟩ h1 ?_ ?_ rfl
      (Int.toNat_of_nonneg h0) rfl
    · simp [ofFindings, placed?, hp]
    · simp [ofFindings, stray?, hp]
  · refine .outside ⟨_, some rule, s.filename⟩ hout ?_ ?_ rfl rfl
    · simp [ofFindings, placed?, herr]
    · simp [ofFindings, stray?, herr]

namespace Session

variable {toolkit : Toolkit} {t : Text} {e : ParseError}

theorem statements_of_failed (h : (toolkit.parse t).stop = some (.failed e)) :
    (({} : Session).statements toolkit t).1 = .ok [] := by
  have hfresh : ({} : Session).cached? = none := rfl
  simp only [statements, hfresh, Session.parse, h]

theorem statements_of_complete (h : (toolkit.parse t).stop = none) :
    (({} : Session).statements toolkit t).1 = .ok (toolkit.parse t).statements := by
  have hfresh : ({} : Session).cached? = none := rfl
  simp only [statements, hfresh, Session.parse, h]

/-- A faithful cache holds nothing of a document that does not parse. -/
theorem Faithful.cache_eq_none {session : Session} (hf : session.Faithful toolkit t)
    (h : (toolkit.parse t).stop = some (.failed e)) : session.cache = none := by
  rcases hf with hnone | ⟨_, hstop⟩
  · exact hnone
  · rw [h] at hstop
    cases hstop

end Session

/-- What the turns of built-in checks come to when the document does not parse. -/
structure Turn.OnFailedParse (c : Context) (s : Source) (e : ParseError) (turn : Turn) : Prop where
  /-- A check of syntax trees has nothing to report. -/
  tree : turn.check.requiresTree = true → turn.outcome = .ok (Report.forSource s)
  /-- The check of parsing has one entry, at the offset to blame, where its rule is active. -/
  parsing : turn.check.rule = .parserFailed → ∃ found, turn.outcome = .ok found ∧
    if c.ledger.isActive .parserFailed e.position then
      found.IsEntry s .parserFailed e.position e.message
    else found = Report.forSource s
  /-- The check of letter case reports as it does with the same tokens and no identifier. -/
  letterCase : turn.check.rule = .letterCase → ∀ other : Toolkit,
    other.tokenize s.text = c.toolkit.tokenize s.text → (other.parse s.text).stop = none →
    identifierStarts (other.parse s.text).statements = [] →
    turn.outcome = (turn.check.run { c with toolkit := other } s {}).1
  /-- Any other check reports as it does with any toolkit, whatever was parsed before. -/
  text : turn.check.requiresTree = false → turn.check.rule ≠ .parserFailed →
    turn.check.rule ≠ .letterCase → ∀ (other : Toolkit) (session : Session),
    turn.outcome = (turn.check.run { c with toolkit := other } s session).1

namespace Check

/-- A built-in check is known by its rule. -/
theorem builtin_ext {a b : Check} (ha : a ∈ builtin) (hb : b ∈ builtin) (h : a.rule = b.rule) :
    a = b :=
  List.inj_on_of_nodup_map (by decide) ha hb h

variable {c : Context} {s : Source} {e : ParseError}

/-- Reading keywords against the identifiers of the statements that a session has or parses. -/
theorem reportKeywords_eq (rule : Rule) (detect : List Int → Token → List Finding)
    {session : Session} {statements : List Statement}
    (h : (session.statements c.toolkit s.text).1 = .ok statements) :
    (reportKeywords rule detect c s session).1 = (keywordsOf c s).bind fun keywords =>
      c.ledger.report rule s (keywords.flatMap (detect (identifierStarts statements))) := by
  rcases hst : session.statements c.toolkit s.text with ⟨found, next⟩
  obtain rfl : found = .ok statements := by rw [hst] at h; exact h
  unfold reportKeywords
  split
  · rename_i hk; rw [hk]; rfl
  · rename_i hk; rw [hk]; rfl
  · rename_i hk; rw [hk, hst]; rfl

/-- Reading keywords against the identifiers of a new parse. -/
theorem reportKeywords_fresh (rule : Rule) (detect : List Int → Token → List Finding)
    {statements : List Statement}
    (h : (({} : Session).statements c.toolkit s.text).1 = .ok statements) :
    (reportKeywords rule detect c s {}).1 = (keywordsOf c s).bind fun keywords =>
      c.ledger.report rule s (keywords.flatMap (detect (identifierStarts statements))) :=
  reportKeywords_eq rule detect h

theorem keywordsOf_eq_ok (h : ∀ fault, c.toolkit.tokenize s.text ≠ .error (.gaveUp fault)) :
    ∃ keywords, keywordsOf c s = .ok keywords := by
  unfold keywordsOf
  split
  · exact ⟨_, rfl⟩
  · exact ⟨_, rfl⟩
  · rename_i hgave
    exact absurd hgave (h _)

theorem tree_silent (hparse : (c.toolkit.parse s.text).stop = some (.failed e))
    (htokens : ∀ fault, c.toolkit.tokenize s.text ≠ .error (.gaveUp fault)) {check : Check}
    (h : check ∈ builtin) :
    check.requiresTree = true → (check.run c s {}).1 = .ok (Report.forSource s) := by
  have hnone := Session.statements_of_failed hparse
  refine builtin_cases (P := fun check => check.requiresTree = true →
    (check.run c s {}).1 = .ok (Report.forSource s)) ?_ ?_ ?_ ?_ ?_ h
  · intro rule detect htree
    exact absurd htree Bool.false_ne_true
  · intro rule detect _
    by_cases henabled : c.parserEnabled = true
    · simp only [ofNodes, henabled, if_true, applyRule_eq, hnone]
      rfl
    · simp only [ofNodes, henabled]
      rfl
  · intro htree
    exact absurd htree Bool.false_ne_true
  · intro _
    by_cases henabled : c.parserEnabled = true
    · obtain ⟨keywords, hk⟩ := keywordsOf_eq_ok htokens
      -- no keyword stands where an identifier starts, because none does
      have hbare : keywords.flatMap (bareKeyword (identifierStarts [])) = [] := by
        simp [bareKeyword, identifierStarts, visitsOf]
      simp only [keywordIdentifier, henabled, if_true, reportKeywords_fresh _ _ hnone, hk]
      show c.ledger.report .keywordIdentifier s _ = _
      rw [hbare]
      rfl
    · simp only [keywordIdentifier, henabled]
      rfl
  · intro htree
    exact absurd htree Bool.false_ne_true

theorem parserSucceeds_entry (hs : s.Valid)
    (hparse : (c.toolkit.parse s.text).stop = some (.failed e)) :
    ∃ found, (parserSucceeds.run c s {}).1 = .ok found ∧
      if c.ledger.isActive .parserFailed e.position then
        found.IsEntry s .parserFailed e.position e.message
      else found = Report.forSource s := by
  have hfresh : ({} : Session).cached? = none := rfl
  simp only [parserSucceeds, hfresh, Session.parse, hparse, Ledger.report_eq hs]
  refine ⟨_, rfl, ?_⟩
  by_cases hactive : c.ledger.isActive .parserFailed e.position = true
  · simp only [hactive, if_true, List.filter_cons_of_pos, List.filter_nil]
    exact Report.isEntry_ofFindings hs _ _ _
  · simp [hactive, Report.ofFindings, Report.forSource]

theorem letterCase_fresh (hparse : (c.toolkit.parse s.text).stop = some (.failed e))
    {other : Toolkit} (htokens : other.tokenize s.text = c.toolkit.tokenize s.text)
    (hcomplete : (other.parse s.text).stop = none)
    (hstarts : identifierStarts (other.parse s.text).statements = []) :
    (letterCase.run c s {}).1 = (letterCase.run { c with toolkit := other } s {}).1 := by
  have hkeywords : keywordsOf { c with toolkit := other } s = keywordsOf c s := by
    simp only [keywordsOf, htokens]
  simp only [letterCase, reportKeywords_fresh _ _ (Session.statements_of_failed hparse),
    reportKeywords_fresh (c := { c with toolkit := other }) _ _
      (Session.statements_of_complete hcomplete), hkeywords, hstarts]
  rfl

theorem text_indifferent {check : Check} (h : check ∈ builtin) :
    check.requiresTree = false → check.rule ≠ .parserFailed → check.rule ≠ .letterCase →
    ∀ (other : Toolkit) (session : Session),
      (check.run c s {}).1 = (check.run { c with toolkit := other } s session).1 := by
  refine builtin_cases (P := fun check => check.requiresTree = false → check.rule ≠ .parserFailed →
    check.rule ≠ .letterCase → ∀ (other : Toolkit) (session : Session),
      (check.run c s {}).1 = (check.run { c with toolkit := other } s session).1) ?_ ?_ ?_ ?_ ?_ h
  · intro rule detect _ _ _ other session
    rfl
  · intro rule detect htree
    exact absurd htree.symm Bool.false_ne_true
  · intro _ _ hne
    exact absurd rfl hne
  · intro htree
    exact absurd htree.symm Bool.false_ne_true
  · intro _ hne
    exact absurd rfl hne

theorem onFailedParse (hs : s.Valid) (hparse : (c.toolkit.parse s.text).stop = some (.failed e))
    (htokens : ∀ fault, c.toolkit.tokenize s.text ≠ .error (.gaveUp fault)) {check : Check}
    (h : check ∈ builtin) : Turn.OnFailedParse c s e ⟨check, (check.run c s {}).1⟩ where
  tree := tree_silent hparse htokens h
  parsing hr := by
    obtain rfl := builtin_ext (b := parserSucceeds) h (by simp [builtin]) hr
    exact parserSucceeds_entry hs hparse
  letterCase hr other := by
    obtain rfl := builtin_ext (b := Check.letterCase) h (by simp [builtin]) hr
    exact letterCase_fresh hparse
  text := text_indifferent h

end Check

/-- **A parse failure is all or nothing.** Let the parser stop at a statement that does not parse,
after any number of statements that do, and let the tokenizer answer. In a run of built-in checks,
such as the complete suite or the one of syntax trees, nothing is ever kept of the parse, checks of
syntax trees report nothing, the check of parsing has one entry for the offset to blame if its rule
is active there and none otherwise, the check of letter case sees no identifier, and the checks of
the text report as with any toolkit. -/
theorem lint_of_failed_parse (settings : Settings) (registry : Registry)
    (toolkit : Toolkit) (text : Text) (filename : Option String) (e : ParseError)
    (hbuiltin : ∀ check ∈ registry.checks, check ∈ Check.builtin)
    (hparse : (toolkit.parse text).stop = some (.failed e))
    (htokens : ∀ fault, toolkit.tokenize text ≠ .error (.gaveUp fault)) :
    ∃ l opening p,
      Directive.ledger (settings.source text filename) settings.lockedRules = .ok l ∧
      Directive.unknownReport (settings.source text filename)
        (!settings.lockedRules.contains .noLint) =
        .ok opening ∧
      lint settings registry toolkit text filename = .ok p ∧
      p.report = (opening.merge (Report.ofTurns filename
        (turns ⟨settings, l, toolkit⟩ (settings.source text filename) {} registry.checks))).sort ∧
      (∀ turn ∈ turns ⟨settings, l, toolkit⟩ (settings.source text filename) {} registry.checks,
        turn.OnFailedParse ⟨settings, l, toolkit⟩ (settings.source text filename) e) ∧
      (∀ n, (Progress.runChecks ⟨settings, l, toolkit⟩ (settings.source text filename) ⟨opening, {}⟩
        (registry.checks.take n)).session.cache = none) ∧
      p.session.cache = none := by
  have hs := Source.valid_of_settings settings text filename
  obtain ⟨l, hl, _⟩ := Directive.ledger_spec (settings.source text filename) settings.lockedRules
  have hcache : ∀ checks : List Check, (∀ check ∈ checks, check ∈ Check.builtin) →
      ((Progress.opening settings (settings.source text filename)).runChecks ⟨settings, l, toolkit⟩
        (settings.source text filename) checks).session.cache = none := by
    intro checks hc
    exact (Progress.runChecks_faithful _ _ checks hc _ (Session.faithful_fresh _ _)).cache_eq_none
      hparse
  refine ⟨l, _, _, hl, Directive.unknownReport_eq hs _,
    lint_eq_turns settings registry toolkit text filename hl, rfl, ?_, ?_, hcache _ hbuiltin⟩
  · rw [Progress.turns_eq_alone _ _ registry.checks hbuiltin {} (Session.faithful_fresh _ _)]
    intro turn hturn
    obtain ⟨check, hm, rfl⟩ := List.mem_map.mp hturn
    exact Check.onFailedParse hs hparse htokens (hbuiltin check hm)
  · intro n
    exact hcache _ fun check hm => hbuiltin check (List.mem_of_mem_take hm)

/-- Both suites on a document whose first statement is a bare keyword and whose second does not
parse. -/
theorem lint_of_failed_parse_suites :
    let e : ParseError := { message := "stuck", position := 2 }
    let toolkit : Toolkit :=
      { tokenize := fun _ => .ok [⟨.keyword, 0, 1, "a"⟩]
        parse := fun _ => ⟨[⟨.mk .identifier "a" "" 0 1 [], 0, 1⟩], some (.failed e)⟩ }
    let s := ({} : Settings).source #['a', ';', 'b'] none
    (∃ l p, Directive.ledger s [] = .ok l ∧ lint {} Registry.builtin toolkit s.text none = .ok p ∧
      (∀ turn ∈ turns ⟨{}, l, toolkit⟩ s {} Check.builtin,
        turn.OnFailedParse ⟨{}, l, toolkit⟩ s e) ∧
      p.session.cache = none) ∧
    ∃ l p, Directive.ledger s [] = .ok l ∧
      lint {} Registry.treeDependent toolkit s.text none = .ok p ∧
      (∀ turn ∈ turns ⟨{}, l, toolkit⟩ s {} Check.treeDependent,
        turn.OnFailedParse ⟨{}, l, toolkit⟩ s e) ∧
      p.session.cache = none := by
  intro e toolkit s
  obtain ⟨l, _, p, hl, _, hp, _, hturns, _, hcache⟩ :=
    lint_of_failed_parse {} Registry.builtin toolkit
    s.text none e (fun _ h => h) rfl (fun _ h => by cases h)
  obtain ⟨l', _, p', hl', _, hp', _, hturns', _, hcache'⟩ := lint_of_failed_parse {}
    Registry.treeDependent toolkit s.text none e
    (fun _ h => List.mem_of_mem_filter (p := Check.requiresTree) h) rfl (fun _ h => by cases h)
  exact ⟨⟨l, p, hl, hp, hturns, hcache⟩, l', p', hl', hp', hturns', hcache'⟩

end SqlStyle
