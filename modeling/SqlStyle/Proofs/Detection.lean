import SqlStyle.Check.Suite
import SqlStyle.Proofs.Reports

/-! # Checks detect before they report

Whatever a built-in check meets (the text, the tokens, the statements kept or parsed now), it
detects a list of findings, after which a node rule may have given up, without asking which rules
are active (`Detects`). Only the report made of a detection depends on the ledger. There are four
ways to build a check: from the text, node by node, from the keywords, and from the parse; each is
shown to detect once, and every built-in check is one of them. -/

namespace SqlStyle

/-- What a check detects in a document: issues in order, and the fault that ended the search, if one
did. -/
structure Detection where
  findings : List Finding := []
  fault : Option Fault := none

/-- The report a detection makes under a ledger. -/
def Detection.report (d : Detection) (l : Ledger) (rule : Rule) (s : Source) : Report :=
  let found := Report.ofFindings rule s (d.findings.filter fun f => l.isActive rule f.offset)
  match d.fault with
  | none => found
  | some fault => found.fail (unhandledMessage rule.name fault) (some rule)

/-- The check comes to one outcome, and leaves one session, under all ledgers that agree on whether
trees are looked at. -/
def Check.Detects (check : Check) : Prop :=
  ∀ (settings : Settings) (toolkit : Toolkit) (enabled : Bool) (s : Source)
    (session : Session), s.Valid →
    ∃ (outcome : Except Fault Detection) (next : Session), ∀ l : Ledger,
      l.isLocked .parserFailed = !enabled →
      check.run ⟨settings, l, toolkit⟩ s session =
        (outcome.map fun d => d.report l check.rule s, next)

namespace Detection

theorem report_nil (l : Ledger) (rule : Rule) (s : Source) :
    ({} : Detection).report l rule s = Report.forSource s := rfl

theorem report_eq {s : Source} (hs : s.Valid) (l : Ledger) (rule : Rule) (findings : List Finding) :
    l.report rule s findings = .ok (Detection.report ⟨findings, none⟩ l rule s) :=
  Ledger.report_eq hs l rule findings

/-- What a node rule detects on visits in order: it gives up on the first fault. -/
def ofVisits (detect : Node.Visit → Except Fault (List Finding)) : List Node.Visit → Detection
  | [] => {}
  | v :: rest =>
    match detect v with
    | .ok found => { ofVisits detect rest with findings :=
      found ++ (ofVisits detect rest).findings }
    | .error fault => { fault := some fault }

/-- A rule that meets no fault detects what it finds on each visit. -/
theorem ofVisits_of_ok {detect : Node.Visit → Except Fault (List Finding)}
    {findings : Node.Visit → List Finding} {visits : List Node.Visit}
    (h : ∀ v ∈ visits, detect v = .ok (findings v)) :
    ofVisits detect visits = ⟨visits.flatMap findings, none⟩ := by
  induction visits with
  | nil => rfl
  | cons v rest ih =>
    obtain ⟨hv, hrest⟩ := List.forall_mem_cons.mp h
    simp only [ofVisits, hv, ih hrest, List.flatMap_cons]

theorem report_cons (found : List Finding) (d : Detection) (l : Ledger) (rule : Rule) (s : Source) :
    Detection.report { d with findings := found ++ d.findings } l rule s =
      (Detection.report ⟨found, none⟩ l rule s).merge (d.report l rule s) := by
  unfold Detection.report
  rw [List.filter_append, Report.ofFindings_append]
  cases d.fault with
  | none => rfl
  | some fault => simp only [Report.fail, Report.merge, Report.ofFindings, List.append_assoc]

theorem applyToVisits_eq {s : Source} (hs : s.Valid) (l : Ledger) (rule : Rule)
    (detect : Node.Visit → Except Fault (List Finding)) (visits : List Node.Visit) :
    ∀ r : Report, r.filename = s.filename →
      applyToVisits (fun v => (detect v).bind (l.report rule s)) rule.name (some rule) visits r =
        r.merge ((ofVisits detect visits).report l rule s) := by
  induction visits with
  | nil =>
    intro r _
    rw [ofVisits, report_nil, applyToVisits, showVisits]
    simp only [Report.merge, Report.forSource, List.append_nil]
  | cons v rest ih =>
    intro r hr
    cases hv : detect v with
    | ok found =>
      have hstep : (detect v).bind (l.report rule s) =
          .ok (Detection.report ⟨found, none⟩ l rule s) := by
        rw [hv]
        exact report_eq hs l rule found
      simp only [applyToVisits_cons, hstep]
      simp only [ofVisits, hv]
      rw [ih (r.merge _) hr, Report.merge_assoc, report_cons]
    | error fault =>
      have hstep : (detect v).bind (l.report rule s) = .error fault := by
        rw [hv]
        rfl
      simp only [applyToVisits_cons, hstep]
      simp [ofVisits, hv, Detection.report, Report.fail, Report.merge,
        Report.ofFindings, blamed, hr]

theorem report_filename (d : Detection) (l : Ledger) (rule : Rule) (s : Source) :
    (d.report l rule s).filename = s.filename := by
  unfold Detection.report
  cases d.fault with
  | none => rfl
  | some fault => rfl

/-- A fault costs no diagnostic: those are the findings made before it. -/
theorem report_diagnostics (d : Detection) (l : Ledger) (rule : Rule) (s : Source) :
    (d.report l rule s).diagnostics =
      (Report.ofFindings rule s (d.findings.filter fun f =>
          l.isActive rule f.offset)).diagnostics := by
  unfold Detection.report
  cases d.fault with
  | none => rfl
  | some fault => rfl

theorem report_inPlace {s : Source} (hs : s.Valid) (d : Detection) (l : Ledger) (rule : Rule) :
    (d.report l rule s).InPlace s := by
  intro x hx
  rw [report_diagnostics] at hx
  exact Report.inPlace_ofFindings hs rule _ x hx

/-- A detection adds itself to the empty report of its document. -/
theorem forSource_merge (d : Detection) (l : Ledger) (rule : Rule) (s : Source) :
    (Report.forSource s).merge (d.report l rule s) = d.report l rule s := by
  rw [Report.merge, Report.forSource, ← report_filename d l rule s]
  rfl

end Detection

namespace Check

theorem ofText_detects (rule : Rule) (detect : Settings → Source → List Finding) :
    (ofText rule detect).Detects := by
  intro settings toolkit enabled s session hs
  refine ⟨.ok ⟨detect settings s, none⟩, session, ?_⟩
  intro l _
  simp only [ofText, Detection.report_eq hs, Except.map]

theorem parserEnabled_eq {settings : Settings} {l : Ledger} {toolkit : Toolkit} {enabled : Bool}
    (h : l.isLocked .parserFailed = !enabled) :
    (⟨settings, l, toolkit⟩ : Context).parserEnabled = enabled := by
  rw [Context.parserEnabled, h, Bool.not_not]

theorem ofNodes_detects (rule : Rule) (detect : Source → Node.Visit → Except Fault (List Finding)) :
    (ofNodes rule detect).Detects := by
  intro settings toolkit enabled s session hs
  cases enabled with
  | false =>
    refine ⟨.ok {}, session, ?_⟩
    intro l hl
    simp only [ofNodes, parserEnabled_eq hl, Bool.false_eq_true, if_false]
    rfl
  | true =>
    rcases hst : session.statements toolkit s.text with ⟨found, next⟩
    refine ⟨found.map fun statements => Detection.ofVisits (detect s)
      (visitsOf statements), next, ?_⟩
    intro l hl
    simp only [ofNodes, parserEnabled_eq hl, if_true, applyRule_eq, hst]
    cases found with
    | error fault => rfl
    | ok statements =>
      simp only [Except.map, Detection.applyToVisits_eq hs l rule (detect s) _
        (Report.forSource s) rfl,
        Detection.forSource_merge]

theorem reportKeywords_detects (rule : Rule) (detect : List Int → Token → List Finding)
    (settings : Settings) (toolkit : Toolkit) {s : Source} (hs : s.Valid) (session : Session) :
    ∃ (outcome : Except Fault Detection) (next : Session), ∀ l : Ledger,
      reportKeywords rule detect ⟨settings, l, toolkit⟩ s session =
        (outcome.map fun d => d.report l rule s, next) := by
  have hk : ∀ l : Ledger, keywordsOf ⟨settings, l, toolkit⟩ s =
      keywordsOf ⟨settings, Ledger.start [], toolkit⟩ s := fun _ => rfl
  cases hkey : keywordsOf ⟨settings, Ledger.start [], toolkit⟩ s with
  | error fault =>
    refine ⟨.error fault, session, ?_⟩
    intro l
    simp only [reportKeywords, hk l, hkey]
    rfl
  | ok keywords =>
    cases keywords with
    | nil =>
      refine ⟨.ok {}, session, ?_⟩
      intro l
      simp only [reportKeywords, hk l, hkey]
      rfl
    | cons first rest =>
      rcases hst : session.statements toolkit s.text with ⟨found, next⟩
      refine ⟨found.map fun statements =>
        ⟨(first :: rest).flatMap (detect (identifierStarts statements)), none⟩, next, ?_⟩
      intro l
      simp only [reportKeywords, hk l, hkey, hst]
      cases found with
      | error fault => rfl
      | ok statements => simp only [Except.map, Detection.report_eq hs]

theorem letterCase_detects : letterCase.Detects := by
  intro settings toolkit enabled s session hs
  obtain ⟨outcome, next, h⟩ := reportKeywords_detects .letterCase (wrongCase settings.upperKeyword)
    settings toolkit hs session
  exact ⟨outcome, next, fun l _ => h l⟩

theorem keywordIdentifier_detects : keywordIdentifier.Detects := by
  intro settings toolkit enabled s session hs
  cases enabled with
  | false =>
    refine ⟨.ok {}, session, ?_⟩
    intro l hl
    simp only [keywordIdentifier, parserEnabled_eq hl, Bool.false_eq_true, if_false]
    rfl
  | true =>
    obtain ⟨outcome, next, h⟩ :=
      reportKeywords_detects .keywordIdentifier bareKeyword settings toolkit
      hs session
    refine ⟨outcome, next, ?_⟩
    intro l hl
    simp only [keywordIdentifier, parserEnabled_eq hl, if_true]
    exact h l

theorem parserSucceeds_detects : parserSucceeds.Detects := by
  intro settings toolkit enabled s session hs
  cases hc : session.cached? with
  | some statements =>
    refine ⟨.ok {}, session, ?_⟩
    intro l _
    simp only [parserSucceeds, hc]
    rfl
  | none =>
    rcases hp : session.parse toolkit s.text with ⟨parse, next⟩
    cases hstop : parse.stop with
    | none =>
      refine ⟨.ok {}, { next with cache := some ⟨parse.statements, true⟩ }, ?_⟩
      intro l _
      simp only [parserSucceeds, hc, hp, hstop]
      rfl
    | some stop =>
      cases stop with
      | failed e =>
        refine ⟨.ok ⟨[⟨e.position, e.message⟩], none⟩, next, ?_⟩
        intro l _
        simp only [parserSucceeds, hc, hp, hstop, Detection.report_eq hs, Except.map]
      | gaveUp fault =>
        refine ⟨.error fault, next, ?_⟩
        intro l _
        simp only [parserSucceeds, hc, hp, hstop]
        rfl

/-- What holds of the checks of texts, of nodes, of keywords and of the parse holds of the built-in
ones. -/
theorem builtin_cases {P : Check → Prop} (text : ∀ rule detect, P (ofText rule detect))
    (nodes : ∀ rule detect, P (ofNodes rule detect)) (case : P letterCase)
    (bare : P keywordIdentifier) (parses : P parserSucceeds) {check : Check} (h : check ∈ builtin) :
    P check := by
  simp only [builtin, List.mem_cons, List.not_mem_nil, or_false] at h
  rcases h with rfl | rfl | rfl | rfl | rfl | rfl | rfl | rfl | rfl | rfl | rfl | rfl | rfl |
    rfl | rfl | rfl | rfl | rfl | rfl | rfl | rfl
  case inr.inl => exact parses
  case inr.inr.inr.inl => exact case
  all_goals first | exact text _ _ | exact nodes _ _ | exact bare

theorem builtin_detects {check : Check} (h : check ∈ builtin) : check.Detects :=
  builtin_cases ofText_detects ofNodes_detects letterCase_detects keywordIdentifier_detects
    parserSucceeds_detects h

theorem builtin_rule_ne_noLint {check : Check} (h : check ∈ builtin) : check.rule ≠ .noLint := by
  have hall : builtin.all fun c => decide (c.rule ≠ .noLint) := by decide
  exact of_decide_eq_true (List.all_eq_true.mp hall check h)

end Check

end SqlStyle
