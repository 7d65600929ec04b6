import SqlStyle.Directive
import SqlStyle.Registry

/-! # Checking a document

The ledger is built from the directives of the document, then every check of the registry runs in
turn, and their reports are merged and sorted. A check that meets a fault contributes one failure
and nothing else. -/

namespace SqlStyle

/-- A report under way, with the session of the run. -/
structure Progress where
  report : Report
  session : Session := {}

/-- Runs one check and adds what it reports. -/
def Progress.runCheck (c : Context) (s : Source) (p : Progress) (check : Check) : Progress :=
  match check.run c s p.session with
  | (.ok found, session) => ⟨p.report.merge found, session⟩
  | (.error fault, session) =>
    ⟨p.report.fail (unhandledMessage check.rule.name fault) (some check.rule), session⟩

/-- Runs checks in order. -/
def Progress.runChecks (c : Context) (s : Source) (p : Progress) (checks : List Check) : Progress :=
  checks.foldl (runCheck c s) p

/-- Checks a document with the checks of a registry. -/
def lint (settings : Settings) (registry : Registry) (toolkit : Toolkit) (text : Text)
    (filename : Option String) : Except Fault Progress := do
  let s := settings.source text filename
  let locked := settings.lockedRules
  let (ledger, report) ← Directive.build s locked (!locked.contains .noLint)
  let done := Progress.runChecks ⟨settings, ledger, toolkit⟩ s ⟨report, {}⟩ registry.checks
  .ok { done with report := done.report.sort }

end SqlStyle
