import SqlStyle.Proofs.Turns

/-! # The parse cache and the order of checks

One check fills the cache of a session, and the checks after it read statements from there instead
of parsing again. Along a run of built-in checks the cache is faithful: it is empty, or it holds all
statements of a document that parses to its end (`Session.Faithful`). With such a cache a check
comes to the outcome it comes to alone (`Check.Independent`), so the report of a run is made of what
its checks report alone (`runChecks_report`) and depends on their order only in the order of its
entries. -/

namespace SqlStyle

/-- The cache is empty, or holds every statement of a document that parses to its end. -/
def Session.Faithful (session : Session) (toolkit : Toolkit) (t : Text) : Prop :=
  session.cache = none ∨
    session.cache = some ⟨(toolkit.parse t).statements, true⟩ ∧ (toolkit.parse t).stop = none

namespace Session

variable {session : Session} {toolkit : Toolkit} {t : Text}

theorem faithful_fresh (toolkit : Toolkit) (t : Text) : ({} : Session).Faithful toolkit t :=
  Or.inl rfl

/-- Only the cache counts, not how often the document was parsed. -/
theorem Faithful.of_cache (h : session.Faithful toolkit t) {next : Session}
    (hc : next.cache = session.cache) : next.Faithful toolkit t := by
  rw [Faithful, hc]
  exact h

theorem Faithful.cached?_cases (h : session.Faithful toolkit t) :
    session.cached? = none ∨
      session.cached? = some (toolkit.parse t).statements ∧ (toolkit.parse t).stop = none := by
  rcases h with h | ⟨h, hstop⟩
  · exact Or.inl (by rw [cached?, h]; rfl)
  · exact Or.inr ⟨by rw [cached?, h]; rfl, hstop⟩

/-- Reading the statements of a document never touches the cache. -/
theorem statements_cache (session : Session) (toolkit : Toolkit) (t : Text) :
    (session.statements toolkit t).2.cache = session.cache := by
  unfold statements
  split
  · rfl
  · simp only [Session.parse]
    split <;> rfl

/-- Statements kept in a faithful cache are those a new parse gives. -/
theorem Faithful.statements_eq (h : session.Faithful toolkit t) :
    (session.statements toolkit t).1 = (({} : Session).statements toolkit t).1 := by
  have hfresh : ({} : Session).cached? = none := rfl
  rcases h.cached?_cases with hc | ⟨hc, hstop⟩
  · simp only [statements, hc, hfresh, Session.parse]
    split <;> rfl
  · simp only [statements, hc, hfresh, Session.parse, hstop]

end Session

/-! ## Checks on their own -/

/-- With a faithful cache the check comes to the outcome it comes to alone, and leaves the cache
faithful. -/
def Check.Independent (check : Check) : Prop :=
  ∀ (c : Context) (s : Source) (session : Session), session.Faithful c.toolkit s.text →
    (check.run c s session).1 = (check.run c s {}).1 ∧
      (check.run c s session).2.Faithful c.toolkit s.text

namespace Check

theorem ofText_independent (rule : Rule) (detect : Settings → Source → List Finding) :
    (ofText rule detect).Independent := by
  intro c s session h
  exact ⟨rfl, h⟩

theorem ofNodes_independent (rule : Rule)
    (detect : Source → Node.Visit → Except Fault (List Finding)) :
    (ofNodes rule detect).Independent := by
  intro c s session h
  by_cases henabled : c.parserEnabled = true
  · simp only [ofNodes, henabled, if_true, applyRule_eq]
    exact ⟨by rw [h.statements_eq], h.of_cache (Session.statements_cache _ _ _)⟩
  · simp only [ofNodes, henabled]
    exact ⟨rfl, h⟩

theorem reportKeywords_independent (rule : Rule) (detect : List Int → Token → List Finding)
    (c : Context) (s : Source) {session : Session} (h : session.Faithful c.toolkit s.text) :
    (reportKeywords rule detect c s session).1 = (reportKeywords rule detect c s {}).1 ∧
      (reportKeywords rule detect c s session).2.Faithful c.toolkit s.text := by
  have hcache := h.of_cache (Session.statements_cache session c.toolkit s.text)
  have heq := h.statements_eq
  rcases hst : session.statements c.toolkit s.text with ⟨found, next⟩
  rcases hst' : ({} : Session).statements c.toolkit s.text with ⟨found', next'⟩
  rw [hst, hst'] at heq
  rw [hst] at hcache
  obtain rfl : found = found' := heq
  unfold reportKeywords
  split
  · exact ⟨rfl, h⟩
  · exact ⟨rfl, h⟩
  · rw [hst, hst']
    cases found with
    | error fault => exact ⟨rfl, hcache⟩
    | ok statements => exact ⟨rfl, hcache⟩

theorem letterCase_independent : letterCase.Independent := by
  intro c s session h
  exact reportKeywords_independent _ _ c s h

theorem keywordIdentifier_independent : keywordIdentifier.Independent := by
  intro c s session h
  by_cases henabled : c.parserEnabled = true
  · simp only [keywordIdentifier, henabled, if_true]
    exact reportKeywords_independent _ _ c s h
  · simp only [keywordIdentifier, henabled]
    exact ⟨rfl, h⟩

/-- The check that fills the cache finds nothing once it is full, and found nothing when it filled
it. -/
theorem parserSucceeds_independent : parserSucceeds.Independent := by
  intro c s session h
  have hfresh : ({} : Session).cached? = none := rfl
  rcases h.cached?_cases with hc | ⟨hc, hstop⟩
  · simp only [parserSucceeds, hc, hfresh, Session.parse]
    cases hstop : (c.toolkit.parse s.text).stop with
    -- the only step that fills the cache, and it does so with the whole parse
    | none => exact ⟨rfl, Or.inr ⟨rfl, hstop⟩⟩
    | some stop =>
      cases stop with
      | failed e => exact ⟨rfl, h.of_cache rfl⟩
      | gaveUp fault => exact ⟨rfl, h.of_cache rfl⟩
  · simp only [parserSucceeds, hc, hfresh, Session.parse, hstop]
    exact ⟨trivial, h⟩

theorem builtin_independent {check : Check} (h : check ∈ builtin) : check.Independent :=
  builtin_cases ofText_independent ofNodes_independent letterCase_independent
    keywordIdentifier_independent parserSucceeds_independent h

/-- What a check adds to the report of a document when it is the only one. -/
def alone (check : Check) (c : Context) (s : Source) : Report :=
  match (check.run c s {}).1 with
  | .ok found => found
  | .error fault => (Report.forSource s).fail (unhandledMessage check.rule.name fault)
    (some check.rule)

end Check

/-! ## Runs -/

namespace Progress

variable (c : Context) (s : Source)

theorem runCheck_session (p : Progress) (check : Check) :
    (p.runCheck c s check).session = (check.run c s p.session).2 := by
  unfold runCheck
  split
  · rename_i h
    rw [h]
  · rename_i h
    rw [h]

theorem runCheck_faithful {p : Progress} (hp : p.session.Faithful c.toolkit s.text) {check : Check}
    (hi : check.Independent) : (p.runCheck c s check).session.Faithful c.toolkit s.text := by
  rw [runCheck_session]
  exact (hi c s p.session hp).2

theorem runChecks_faithful (checks : List Check) (hc : ∀ check ∈ checks, check ∈ Check.builtin)
    (start : Progress) (hstart : start.session.Faithful c.toolkit s.text) :
    (start.runChecks c s checks).session.Faithful c.toolkit s.text := by
  refine List.foldlRecOn (motive := fun p : Progress => p.session.Faithful c.toolkit s.text) checks
    _ hstart ?_
  intro p hp check hm
  exact runCheck_faithful c s hp (Check.builtin_independent (hc check hm))

/-- At its turn, a built-in check comes to what it comes to alone. -/
theorem turns_eq_alone (checks : List Check) (hc : ∀ check ∈ checks, check ∈ Check.builtin) :
    ∀ session : Session, session.Faithful c.toolkit s.text →
      turns c s session checks = checks.map fun check => ⟨check, (check.run c s {}).1⟩ := by
  induction checks with
  | nil => intro session _; rfl
  | cons check rest ih =>
    intro session hf
    obtain ⟨hout, hnext⟩ := Check.builtin_independent (hc check List.mem_cons_self) c s session hf
    rw [turns, hout, ih (fun other hm => hc other (List.mem_cons_of_mem _ hm)) _ hnext,
      List.map_cons]

/-- A run adds what its checks report alone, one after the other. -/
theorem runChecks_report (checks : List Check) (hc : ∀ check ∈ checks, check ∈ Check.builtin)
    (p : Progress) (hp : p.session.Faithful c.toolkit s.text)
    (hf : p.report.filename = s.filename) :
    (p.runChecks c s checks).report =
      p.report.merge
        { diagnostics := checks.flatMap fun check => (check.alone c s).diagnostics
          failures := checks.flatMap fun check => (check.alone c s).failures } := by
  have hdiag : ∀ check : Check,
      Turn.diagnostics ⟨check, (check.run c s {}).1⟩ = (check.alone c s).diagnostics := by
    intro check
    unfold Turn.diagnostics Check.alone
    cases (check.run c s {}).1 <;> rfl
  have hfail : ∀ check : Check,
      Turn.failures s.filename ⟨check, (check.run c s {}).1⟩ = (check.alone c s).failures := by
    intro check
    unfold Turn.failures Check.alone
    cases (check.run c s {}).1 <;> rfl
  rw [runChecks_report_turns, turns_eq_alone c s checks hc _ hp, hf]
  simp only [Report.ofTurns, Report.merge, List.flatMap_map, hdiag, hfail]

/-- Runs of the same checks in another order differ in the order of what they report. -/
theorem runChecks_perm {checks₁ checks₂ : List Check}
    (hc : ∀ check ∈ checks₁, check ∈ Check.builtin) (h : checks₁.Perm checks₂) {p : Progress}
    (hp : p.session.Faithful c.toolkit s.text) (hf : p.report.filename = s.filename) :
    (p.runChecks c s checks₁).report.filename = (p.runChecks c s checks₂).report.filename ∧
      (p.runChecks c s checks₁).report.diagnostics.Perm
        (p.runChecks c s checks₂).report.diagnostics ∧
      (p.runChecks c s checks₁).report.failures.Perm (p.runChecks c s checks₂).report.failures := by
  rw [runChecks_report c s checks₁ hc p hp hf,
    runChecks_report c s checks₂ (fun check hm => hc check (h.mem_iff.mpr hm)) p hp hf]
  exact ⟨rfl, (h.flatMap_right _).append_left _, (h.flatMap_right _).append_left _⟩

end Progress

/-- **Checks are independent.** At every point of a run of built-in checks the cache is faithful,
and the check whose turn it is comes to the outcome, a report or a fault, that it comes to alone. So
two registries with the same checks in another order report the same diagnostics and the same
failures on every document. The diagnostics stand at the same offsets in the same order: only those
at one offset, and the failures, may change places. -/
theorem checks_independent :
    (∀ (c : Context) (s : Source) (start : Report) (registry : Registry),
      (∀ check ∈ registry.checks, check ∈ Check.builtin) →
      ∀ before after, registry.checks = before ++ after →
        (Progress.runChecks c s ⟨start, {}⟩ before).session.Faithful c.toolkit s.text ∧
        ∀ check, after.head? = some check →
          (check.run c s (Progress.runChecks c s ⟨start, {}⟩ before).session).1 =
            (check.run c s {}).1) ∧
    ∀ (settings : Settings) (r₁ r₂ : Registry) (toolkit : Toolkit) (text : Text)
      (filename : Option String), (∀ check ∈ r₁.checks, check ∈ Check.builtin) →
      r₁.checks.Perm r₂.checks →
      ∃ p₁ p₂, lint settings r₁ toolkit text filename = .ok p₁ ∧
        lint settings r₂ toolkit text filename = .ok p₂ ∧
        p₁.report.filename = p₂.report.filename ∧
        p₁.report.diagnostics.Perm p₂.report.diagnostics ∧
        p₁.report.failures.Perm p₂.report.failures ∧
        p₁.report.diagnostics.map (·.offset) = p₂.report.diagnostics.map (·.offset) := by
  refine ⟨?_, ?_⟩
  · intro c s start registry hr before after hsplit
    have hbefore : ∀ check ∈ before, check ∈ Check.builtin := by
      intro check hm
      exact hr check (by rw [hsplit]; exact List.mem_append_left _ hm)
    have hfaithful := Progress.runChecks_faithful c s before hbefore ⟨start, {}⟩
      (Session.faithful_fresh _ _)
    refine ⟨hfaithful, ?_⟩
    intro check hhead
    have hm : check ∈ registry.checks := by
      rw [hsplit]
      exact List.mem_append_right _ (List.mem_of_mem_head? hhead)
    exact (Check.builtin_independent (hr check hm) c s _ hfaithful).1
  · intro settings r₁ r₂ toolkit text filename hr₁ hperm
    have hs := Source.valid_of_settings settings text filename
    have hr₂ : ∀ check ∈ r₂.checks, check ∈ Check.builtin := fun check hm =>
      hr₁ check (hperm.mem_iff.mpr hm)
    obtain ⟨l, hl, _⟩ := Directive.ledger_spec (settings.source text filename) settings.lockedRules
    have hopen : (Progress.opening settings (settings.source text filename)).report.InPlace
        (settings.source text filename) := Report.inPlace_ofFindings hs _ _
    obtain ⟨hname, hdiag, hfail⟩ := Progress.runChecks_perm ⟨settings, l, toolkit⟩
      (settings.source text filename) hr₁ hperm
      (p := Progress.opening settings (settings.source text filename))
      (Session.faithful_fresh _ _) rfl
    obtain ⟨hsorted, hoffsets⟩ := Report.InPlace.sort_offsets_eq hs
      (Progress.runChecks_inPlace hs ⟨settings, l, toolkit⟩ r₁.checks hr₁ _ hopen)
      (Progress.runChecks_inPlace hs ⟨settings, l, toolkit⟩ r₂.checks hr₂ _ hopen) hdiag
    exact ⟨_, _, (lint_eq_lintUnder settings r₁ toolkit text filename hl).trans
        (lintUnder_eq settings r₁ toolkit text filename l),
      (lint_eq_lintUnder settings r₂ toolkit text filename hl).trans
        (lintUnder_eq settings r₂ toolkit text filename l),
      hname, hsorted, hfail, hoffsets⟩

/-- Settings under which a line of two characters is too long. -/
def narrow : Settings := { lineLimit := ⟨1, by decide⟩ }

/-- What checks report under them on a line that does not end its statement, before it is sorted. -/
def foundInLine (checks : List Check) : List Diagnostic :=
  (Progress.runChecks ⟨narrow, Ledger.start [], Toolkit.empty⟩ (narrow.source #['a', 'b'] none)
    (Progress.opening narrow (narrow.source #['a', 'b'] none)) checks).report.diagnostics

/-- Diagnostics that stand at one place are reported in the order of their checks. -/
theorem diagnostics_of_line {checks : List Check} {p : Progress}
    (hp : lint narrow ⟨checks⟩ Toolkit.empty #['a', 'b'] none = .ok p)
    (hplace : (foundInLine checks).Pairwise fun a b => Report.positionLe a b = true) :
    p.report.diagnostics = foundInLine checks := by
  have hevents : Directive.events (narrow.source #['a', 'b'] none) = [] := by decide +kernel
  have hl : Directive.ledger (narrow.source #['a', 'b'] none) narrow.lockedRules =
      .ok (Ledger.start []) := by
    simp [Directive.ledger, hevents, Ledger.ofEvents]
    rfl
  rw [lint_eq_lintUnder narrow ⟨checks⟩ Toolkit.empty #['a', 'b'] none hl, lintUnder_eq] at hp
  cases hp
  exact List.mergeSort_of_pairwise hplace

/-- Two checks find something at one offset, in either order, and the check of letter case is
accepted before the parsing check, where it has to parse, and after it. -/
theorem checks_independent_swapped :
    (∃ r₁ r₂ p₁ p₂, Registry.ofChecks [.lineLimit, .statementSemicolon] = .ok r₁ ∧
      Registry.ofChecks [.statementSemicolon, .lineLimit] = .ok r₂ ∧
      lint narrow r₁ Toolkit.empty #['a', 'b'] none = .ok p₁ ∧
      lint narrow r₂ Toolkit.empty #['a', 'b'] none = .ok p₂ ∧
      p₁.report.diagnostics.Perm p₂.report.diagnostics ∧
      p₁.report.diagnostics.map (fun d => (d.rule, d.offset)) =
        [(.lineLimit, 2), (.statementSemicolon, 2)] ∧
      p₂.report.diagnostics.map (fun d => (d.rule, d.offset)) =
        [(.statementSemicolon, 2), (.lineLimit, 2)]) ∧
    ∃ r, Registry.ofChecks [.parserSucceeds, .letterCase, .countStar] = .ok r ∧
      Registry.ofChecks [.letterCase, .parserSucceeds, .countStar] = .ok
        ⟨[.letterCase, .parserSucceeds, .countStar]⟩ ∧
      ∀ c s, (Check.letterCase.run c s
        (Progress.runChecks c s ⟨{}, {}⟩ [.parserSucceeds]).session).1 =
          (Check.letterCase.run c s {}).1 := by
  refine ⟨⟨⟨[.lineLimit, .statementSemicolon]⟩, ⟨[.statementSemicolon, .lineLimit]⟩, ?_⟩,
    ⟨[.parserSucceeds, .letterCase, .countStar]⟩, rfl, rfl, ?_⟩
  · obtain ⟨p₁, p₂, h₁, h₂, _, hdiag, _, _⟩ := checks_independent.2 narrow
      ⟨[.lineLimit, .statementSemicolon]⟩ ⟨[.statementSemicolon, .lineLimit]⟩ Toolkit.empty
      #['a', 'b'] none (by simp [Check.builtin]) (List.Perm.swap _ _ _)
    refine ⟨p₁, p₂, rfl, rfl, h₁, h₂, hdiag, ?_, ?_⟩
    · rw [diagnostics_of_line h₁ (by decide +kernel)]
      decide +kernel
    · rw [diagnostics_of_line h₂ (by decide +kernel)]
      decide +kernel
  · intro c s
    exact (checks_independent.1 c s {} ⟨[.parserSucceeds, .letterCase, .countStar]⟩
      (by simp [Check.builtin]) [.parserSucceeds] [.letterCase, .countStar] rfl).2 _ rfl

end SqlStyle
