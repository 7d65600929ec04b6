import SqlStyle.Proofs.Engine

/-! # A run, turn by turn

Every check of a registry has one turn, in which it reports or meets a fault. The report of a run is
that on unknown names followed by what the turns leave (`runChecks_report_turns`), and nothing a
check does can stop the run or reach into another turn. Reports that come about by adding issues of
the document hold every diagnostic at the position of its offset, so sorting them by position is
sorting them by offset. -/

namespace SqlStyle

/-- A check and what it came to at its turn. -/
structure Turn where
  check : Check
  outcome : Except Fault Report

namespace Turn

/-- The diagnostics that a turn leaves: those of its report, and none after a fault. -/
def diagnostics (turn : Turn) : List Diagnostic :=
  match turn.outcome with
  | .ok found => found.diagnostics
  | .error _ => []

/-- The failures that a turn leaves: those of its report, or the one about the fault. -/
def failures (filename : Option String) (turn : Turn) : List Failure :=
  match turn.outcome with
  | .ok found => found.failures
  | .error fault =>
    [{ message := unhandledMessage turn.check.rule.name fault, rule := some turn.check.rule,
       filename }]

end Turn

/-- The turns of checks that run one after the other, from a session on. -/
def turns (c : Context) (s : Source) : Session → List Check → List Turn
  | _, [] => []
  | session, check :: rest =>
    ⟨check, (check.run c s session).1⟩ :: turns c s (check.run c s session).2 rest

/-- What turns leave, in order. -/
def Report.ofTurns (filename : Option String) (turns : List Turn) : Report where
  filename := filename
  diagnostics := turns.flatMap Turn.diagnostics
  failures := turns.flatMap (Turn.failures filename)

section

variable (c : Context) (s : Source)

theorem Progress.runCheck_turn (p : Progress) (check : Check) :
    p.runCheck c s check =
      ⟨p.report.merge (Report.ofTurns p.report.filename [⟨check, (check.run c s p.session).1⟩]),
        (check.run c s p.session).2⟩ := by
  unfold Progress.runCheck
  rcases check.run c s p.session with ⟨outcome, next⟩
  cases outcome with
  | ok found => simp [Report.ofTurns, Turn.diagnostics, Turn.failures, Report.merge]
  | error fault => simp [Report.ofTurns, Turn.diagnostics, Turn.failures, Report.merge, Report.fail]

/-- A run adds what its turns leave, whatever the checks are. -/
theorem Progress.runChecks_report_turns (checks : List Check) :
    ∀ p : Progress, (p.runChecks c s checks).report =
      p.report.merge (Report.ofTurns p.report.filename (turns c s p.session checks)) := by
  induction checks with
  | nil => intro p; simp [Progress.runChecks, turns, Report.ofTurns, Report.merge]
  | cons check rest ih =>
    intro p
    refine (ih (p.runCheck c s check)).trans ?_
    rw [runCheck_turn]
    simp [turns, Report.ofTurns, Report.merge]

end

/-- Checking a document ends in the sorted report on unknown names and on the turns of the
checks. -/
theorem lint_eq_turns (settings : Settings) (registry : Registry) (toolkit : Toolkit) (text : Text)
    (filename : Option String) {l : Ledger}
    (hl : Directive.ledger (settings.source text filename) settings.lockedRules = .ok l) :
    lint settings registry toolkit text filename =
      .ok ⟨((Progress.opening settings (settings.source text filename)).report.merge
          (Report.ofTurns filename
            (turns ⟨settings, l, toolkit⟩ (settings.source text filename)
            {} registry.checks))).sort,
        ((Progress.opening settings (settings.source text filename)).runChecks
          ⟨settings, l, toolkit⟩
          (settings.source text filename) registry.checks).session⟩ := by
  rw [lint_eq_lintUnder settings registry toolkit text filename hl, lintUnder_eq,
    Progress.runChecks_report_turns]
  rfl

/-! ## Reports on a document -/

/-- The reports that come about by adding issues of a document, of any rules at any offsets, by
recording failures and by merging. -/
inductive Report.Built (s : Source) : Report → Prop
  | empty : Built s (Report.forSource s)
  | add {r next : Report} {rule : Rule} {offset : Int} {message : String} :
      Built s r → r.add rule s offset message = .ok next → Built s next
  | fail {r : Report} (message : String) (rule : Option Rule) : Built s r →
    Built s (r.fail message rule)
  | merge {a b : Report} : Built s a → Built s b → Built s (a.merge b)

namespace Report

theorem Built.filename_eq {s : Source} (hs : s.Valid) {r : Report} (h : r.Built s) :
    r.filename = s.filename := by
  induction h with
  | empty => rfl
  | @add r next rule offset message _ hadd ih =>
    rw [add_eq hs ih rule ⟨offset, message⟩] at hadd
    cases hadd
    exact ih
  | fail _ _ _ ih => exact ih
  | merge _ _ ih _ => exact ih

theorem Built.inPlace {s : Source} (hs : s.Valid) {r : Report} (h : r.Built s) : r.InPlace s := by
  induction h with
  | empty => intro d hd; cases hd
  | @add r next rule offset message hr hadd ih =>
    rw [add_eq hs (hr.filename_eq hs) rule ⟨offset, message⟩] at hadd
    cases hadd
    exact ih.merge (inPlace_ofFindings hs rule _)
  | fail _ _ _ ih => exact ih
  | merge _ _ iha ihb => exact iha.merge ihb

/-- `a` does not stand at a later offset than `b`. -/
def offsetLe (a b : Diagnostic) : Bool := decide (a.offset ≤ b.offset)

/-- Sorting diagnostics at the positions of their offsets is sorting them by offset. -/
theorem InPlace.sort_eq {s : Source} (hs : s.Valid) {r : Report} (h : r.InPlace s) :
    r.sort.diagnostics = r.diagnostics.mergeSort offsetLe := by
  have hle : ∀ a ∈ r.diagnostics, ∀ b ∈ r.diagnostics, positionLe a b = offsetLe (id a) (id b) := by
    intro a ha b hb
    rw [Bool.eq_iff_iff, offsetLe, decide_eq_true_iff]
    exact positionLe_iff hs (h a ha) (h b hb)
  have hmap := List.map_mergeSort hle
  rwa [List.map_id, List.map_id] at hmap

theorem inPlace_ofTurns {s : Source} (hs : s.Valid) (filename : Option String) {turns : List Turn}
    (h : ∀ turn ∈ turns, ∀ found, turn.outcome = .ok found → found.Built s) :
    (ofTurns filename turns).InPlace s := by
  intro d hd
  obtain ⟨turn, hm, hd⟩ := List.mem_flatMap.mp hd
  unfold Turn.diagnostics at hd
  split at hd
  · rename_i found hfound
    exact (h turn hm found hfound).inPlace hs d hd
  · cases hd

end Report

theorem foldlM_add_built {s : Source} {rule : Rule} {findings : List Finding} :
    ∀ {r next : Report}, r.Built s →
      findings.foldlM (fun report f => report.add rule s f.offset f.message) r = .ok next →
      next.Built s := by
  induction findings with
  | nil => intro r next hr h; cases h; exact hr
  | cons f rest ih =>
    intro r next hr h
    rw [List.foldlM_cons] at h
    cases hadd : r.add rule s f.offset f.message with
    | ok mid => rw [hadd] at h; exact ih (hr.add hadd) h
    | error fault => rw [hadd] at h; cases h

/-- A report on findings is built, whichever of them the ledger lets through. -/
theorem Ledger.report_built {l : Ledger} {rule : Rule} {s : Source} {findings : List Finding}
    {r : Report} (h : l.report rule s findings = .ok r) : r.Built s :=
  foldlM_add_built .empty h

/-- **Faults are isolated and diagnostics come in order of offset.** Let every check of a registry,
at its turn, give a report built on the document, at offsets inside or outside it, or meet any
fault. Then checking the document succeeds. Its diagnostics are the stable sort by offset of those
on unknown names and, in the order of the registry, those of every turn without a fault. Its
failures are, in the order of the registry, those of every turn without a fault and exactly one for
each turn with a fault, under the rule of the check. -/
theorem lint_isolates_faults (settings : Settings) (registry : Registry)
    (toolkit : Toolkit) (text : Text) (filename : Option String)
    (hbuilt : ∀ l, Directive.ledger (settings.source text filename) settings.lockedRules = .ok l →
      ∀ turn ∈ turns ⟨settings, l, toolkit⟩ (settings.source text filename) {} registry.checks,
        ∀ found, turn.outcome = .ok found → found.Built (settings.source text filename)) :
    ∃ l opening p,
      Directive.ledger (settings.source text filename) settings.lockedRules = .ok l ∧
      Directive.unknownReport (settings.source text filename)
        (!settings.lockedRules.contains .noLint) =
        .ok opening ∧
      lint settings registry toolkit text filename = .ok p ∧
      p.report.filename = filename ∧
      p.report.diagnostics =
        (opening.diagnostics ++
          (turns ⟨settings, l, toolkit⟩ (settings.source text filename) {} registry.checks).flatMap
            Turn.diagnostics).mergeSort Report.offsetLe ∧
      p.report.failures =
        (turns ⟨settings, l, toolkit⟩ (settings.source text filename) {} registry.checks).flatMap
          (Turn.failures filename) := by
  have hs := Source.valid_of_settings settings text filename
  obtain ⟨l, hl, _⟩ := Directive.ledger_spec (settings.source text filename) settings.lockedRules
  have hopen : (Progress.opening settings (settings.source text filename)).report.InPlace
      (settings.source text filename) := Report.inPlace_ofFindings hs _ _
  have hturns := Report.inPlace_ofTurns hs filename (hbuilt l hl)
  refine ⟨l, (Progress.opening settings (settings.source text filename)).report, _, hl,
    Directive.unknownReport_eq hs _, lint_eq_turns settings registry toolkit text filename hl, rfl,
    (hopen.merge hturns).sort_eq hs, ?_⟩
  -- sorting leaves failures alone, and the report on unknown names brings none
  simp only [Report.sort, Report.merge, Progress.opening_failures settings hs, List.nil_append]
  rfl

/-- One check gives up, and the next reports out of order and outside the document. -/
theorem lint_isolates_faults_fixed :
    let registry : Registry := ⟨[.fixed .join true false (.error (.raised "stuck")),
      .fixed .imports false false (.ok [⟨2, "late"⟩, ⟨-1, "outside"⟩, ⟨0, "early"⟩])]⟩
    let s := ({} : Settings).source #['#', 'a'] none
    ∃ l opening p, Directive.ledger s [] = .ok l ∧ Directive.unknownReport s true = .ok opening ∧
      lint {} registry Toolkit.empty #['#', 'a'] none = .ok p ∧ p.report.filename = none ∧
      p.report.diagnostics = (opening.diagnostics ++
        (turns ⟨{}, l, Toolkit.empty⟩ s {} registry.checks).flatMap Turn.diagnostics).mergeSort
          Report.offsetLe ∧
      p.report.failures =
        (turns ⟨{}, l, Toolkit.empty⟩ s {} registry.checks).flatMap (Turn.failures none) := by
  refine lint_isolates_faults {} _ Toolkit.empty #['#', 'a'] none ?_
  intro l _ turn hturn found hfound
  simp only [turns, List.mem_cons, List.not_mem_nil, or_false] at hturn
  rcases hturn with rfl | rfl
  · cases hfound
  · exact Ledger.report_built hfound

end SqlStyle
