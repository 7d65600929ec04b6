import SqlStyle.Engine
import SqlStyle.Proofs.Detection
import SqlStyle.Proofs.Streaming

/-! # What a run can do to its report

A built-in check adds the report of what it detects, or one failure if it meets a fault
(`runCheck_cases`). Whatever both keep true of a report is true after any number of checks
(`runChecks_induct`). Checking a document never fails as a whole, because neither the report on
unknown names nor the ledger can be refused (`lintUnder_eq`, `lint_eq_lintUnder`). -/

namespace SqlStyle

namespace Progress

/-- One built-in check adds a detection or a fault. -/
theorem runCheck_cases {s : Source} (hs : s.Valid) (c : Context) (p : Progress) {check : Check}
    (hd : check.Detects) :
    (∃ d : Detection,
      (p.runCheck c s check).report = p.report.merge (d.report c.ledger check.rule s)) ∨
    ∃ fault, (p.runCheck c s check).report =
      p.report.fail (unhandledMessage check.rule.name fault) (some check.rule) := by
  obtain ⟨outcome, next, hrun⟩ := hd c.settings c.toolkit c.parserEnabled s p.session hs
  have h := hrun c.ledger (by rw [Context.parserEnabled, Bool.not_not])
  unfold Progress.runCheck
  rw [h]
  cases outcome with
  | ok d => exact Or.inl ⟨d, rfl⟩
  | error fault => exact Or.inr ⟨fault, rfl⟩

/-- What detections and faults keep true of a report, a run of built-in checks keeps true. -/
theorem runChecks_induct {P : Report → Prop} {s : Source} (hs : s.Valid) (c : Context)
    (found : ∀ r (d : Detection) (rule : Rule), rule ≠ .noLint → P r →
      P (r.merge (d.report c.ledger rule s)))
    (failed : ∀ r (rule : Rule) (fault : Fault), P r →
      P (r.fail (unhandledMessage rule.name fault) (some rule)))
    (checks : List Check) (hc : ∀ check ∈ checks, check ∈ Check.builtin) :
    ∀ p : Progress, P p.report → P (p.runChecks c s checks).report := by
  intro start hstart
  refine List.foldlRecOn (motive := fun p : Progress => P p.report) checks _ hstart ?_
  intro p hp check hm
  have hb := hc check hm
  rcases runCheck_cases hs c p (Check.builtin_detects hb) with ⟨d, h⟩ | ⟨fault, h⟩
  · rw [h]
    exact found p.report d check.rule (Check.builtin_rule_ne_noLint hb) hp
  · rw [h]
    exact failed p.report check.rule fault hp

/-- A run of built-in checks reports every diagnostic at the position of its offset. -/
theorem runChecks_inPlace {s : Source} (hs : s.Valid) (c : Context) (checks : List Check)
    (hc : ∀ check ∈ checks, check ∈ Check.builtin) :
    ∀ p : Progress, p.report.InPlace s → (p.runChecks c s checks).report.InPlace s := by
  refine runChecks_induct hs c ?_ ?_ checks hc
  · intro r d rule _ hr
    exact hr.merge (d.report_inPlace hs c.ledger rule)
  · intro r rule fault hr
    exact hr

end Progress

/-- Checks a document as `lint` does, with a ledger given instead of the document's own. -/
def lintUnder (l : Ledger) (settings : Settings) (registry : Registry)
    (toolkit : Toolkit) (text : Text) (filename : Option String) : Except Fault Progress := do
  let s := settings.source text filename
  let report ← Directive.unknownReport s (!settings.lockedRules.contains .noLint)
  let done := Progress.runChecks ⟨settings, l, toolkit⟩ s ⟨report, {}⟩ registry.checks
  .ok { done with report := done.report.sort }

/-- Where the checks of a run begin: the report on unknown names, and nothing parsed. -/
def Progress.opening (settings : Settings) (s : Source) : Progress :=
  ⟨Report.ofFindings .noLint s
    (Directive.unknownFindings s (!settings.lockedRules.contains .noLint)), {}⟩

/-- Unknown names stand at the ends of comments, so none of them is reported as outside the
document. -/
theorem Progress.opening_failures (settings : Settings) {s : Source} (hs : s.Valid) :
    (Progress.opening settings s).report.failures = [] :=
  (Report.ofFindings_inside hs .noLint fun _ => Directive.unknownFindings_inside).1

variable (settings : Settings) (registry : Registry) (toolkit : Toolkit) (text : Text)
  (filename : Option String)

/-- Checking under a ledger always ends in a report: that of the checks, sorted. -/
theorem lintUnder_eq (l : Ledger) :
    lintUnder l settings registry toolkit text filename =
      .ok { (Progress.opening settings (settings.source text filename)).runChecks
              ⟨settings, l, toolkit⟩ (settings.source text filename) registry.checks with
            report := ((Progress.opening settings (settings.source text filename)).runChecks
              ⟨settings, l, toolkit⟩ (settings.source text filename)
                registry.checks).report.sort } := by
  simp only [lintUnder,
    Directive.unknownReport_eq (Source.valid_of_settings settings text filename)]
  rfl

theorem lint_eq_lintUnder {l : Ledger}
    (hl : Directive.ledger (settings.source text filename) settings.lockedRules = .ok l) :
    lint settings registry toolkit text filename =
      lintUnder l settings registry toolkit text filename := by
  simp only [lint, lintUnder, Directive.build_eq hl,
    Directive.unknownReport_eq (Source.valid_of_settings settings text filename)]
  rfl

end SqlStyle
