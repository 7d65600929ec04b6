import SqlStyle.Command.Run
import SqlStyle.Proofs.Turns

/-! # Runs that check documents

No document can keep a run from its end: there is a report on each (`exists_report`), and what a run
comes to is told by these reports and by what could not be read (`runWith_eq`). Only showing syntax
trees can break it off, where the grammar gives up. -/

namespace SqlStyle

/-- There is a report on every document. -/
theorem exists_report (settings : Settings) (toolkit : Toolkit) :
    ∃ report : Document → Report, ∀ d, reportOn settings toolkit d = .ok (report d) := by
  have hreport (d : Document) : ∃ report, reportOn settings toolkit d = .ok report := by
    obtain ⟨l, hl, -⟩ := Directive.ledger_spec (settings.source d.text d.filename)
      settings.lockedRules
    rw [reportOn, lint_eq_turns settings Registry.builtin toolkit d.text d.filename hl]
    exact ⟨_, rfl⟩
  exact ⟨fun d => (hreport d).choose, fun d => (hreport d).choose_spec⟩

/-- The trees that a run shows: one list for each document if they are asked for. -/
def treesFor (toolkit : Toolkit) (o : Options) (documents : List Document) :
    Except Abort (List (List Display)) :=
  if o.showTrees then documents.mapM (showTrees toolkit) else .ok []

variable {r : Surroundings} {o : Options} {format : Format} {settings : Settings}
    {report : Document → Report}

/-- What a run comes to, once it has documents. -/
theorem runWith_eq {documents : List Document} {collected : Collected}
    (hreport : ∀ d, reportOn settings (r.toolkit settings.dialect) d = .ok (report d))
    (hdocuments : documentsFor r o = some (documents, collected)) :
    runWith r o format settings =
        (treesFor (r.toolkit settings.dialect) o documents).map fun shown =>
      { status := if collected.isComplete && (documents.map report).all Report.isClean then 0 else 1
        output := format.write (documents.map report)
        notes := collected.notes ++ shown.flatten
        summarised := if format = .text then some (documents.map report) else none } := by
  have hreports : documents.mapM (reportOn settings (r.toolkit settings.dialect)) =
      .ok (documents.map report) := by
    rw [funext hreport]
    exact List.mapM_pure
  unfold runWith checkDocuments treesFor
  simp only [hdocuments, hreports, bind, Except.bind, Except.map]
  cases o.showTrees with
  | false => cases collected.isComplete <;> simp
  | true =>
    cases documents.mapM (showTrees (r.toolkit settings.dialect)) with
    | error e => rfl
    | ok shown => cases collected.isComplete <;> simp

/-- Documents are checked with status 0 or 1, and without any the status is 3. -/
theorem status_of_runWith {outcome : Outcome} (h : runWith r o format settings = .ok outcome) :
    outcome.status ≠ 2 := by
  cases hdocuments : documentsFor r o with
  | none =>
    simp only [runWith, hdocuments] at h
    cases h
    simp
  | some found =>
    obtain ⟨report, hreport⟩ := exists_report settings (r.toolkit settings.dialect)
    rw [runWith_eq hreport hdocuments] at h
    cases hshown : treesFor (r.toolkit settings.dialect) o found.1 with
    | error e => rw [hshown] at h; cases h
    | ok shown =>
      rw [hshown] at h
      cases h
      dsimp only
      split <;> simp

end SqlStyle
