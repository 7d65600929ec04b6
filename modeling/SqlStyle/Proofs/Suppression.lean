import SqlStyle.Proofs.Engine

/-! # Suppression leaves findings out and changes nothing else

Running checks under the ledger of a document gives the report of the same run with every rule
active everywhere, less the entries at offsets where their rule is inactive. A diagnostic carries
its offset; a failure about an issue outside the document names it in its message, from where
`Failure.offset?` reads it back. Faults are reported under every ledger. The two runs go through the
same sessions, check by check (`SuppressedBy.runCheck`), because a built-in check detects before it
reports. -/

namespace SqlStyle

/-! ## The offset a failure names -/

/-- The number, possibly negative, that characters begin with. -/
def leadingInt : List Char → Int
  | '-' :: cs => -(Nat.ofDigitChars 10 (cs.takeWhile Char.isDigit) 0 : Nat)
  | cs => Nat.ofDigitChars 10 (cs.takeWhile Char.isDigit) 0

/-- The offset of an issue outside its document, read off the failure that reports it. -/
def Failure.offset? (f : Failure) : Option Int :=
  (Text.after? "Byte offset ".toList f.message.toList).map leadingInt

theorem takeWhile_digits (n : Nat) {rest : List Char} (h : rest.head?.all (!·.isDigit)) :
    (Nat.toDigits 10 n ++ rest).takeWhile Char.isDigit = Nat.toDigits 10 n := by
  rw [List.takeWhile_append_of_pos fun c hc =>
    Nat.isDigit_of_mem_toDigits (by decide) (by decide) hc]
  cases rest with
  | nil => simp
  | cons c cs =>
    have : c.isDigit = false := by simpa using h
    simp [this]

theorem leadingInt_digits (n : Nat) {rest : List Char} (h : rest.head?.all (!·.isDigit)) :
    leadingInt (Nat.toDigits 10 n ++ rest) = n := by
  have hread : leadingInt (Nat.toDigits 10 n ++ rest) =
      Nat.ofDigitChars 10 ((Nat.toDigits 10 n ++ rest).takeWhile Char.isDigit) 0 := by
    cases hd : Nat.toDigits 10 n with
    | nil => exact absurd hd Nat.toDigits_ne_nil
    | cons d ds =>
      have hmem : d ∈ Nat.toDigits 10 n := by rw [hd]; exact List.mem_cons_self
      have hdigit : d.isDigit = true := Nat.isDigit_of_mem_toDigits (by decide) (by decide) hmem
      -- a digit is no sign, so the second equation of the reader applies
      unfold leadingInt
      split
      · rename_i heq
        cases heq
        exact absurd hdigit (by decide)
      · rfl
  rw [hread, takeWhile_digits n h, Nat.ofDigitChars_ten_toDigits]

theorem leadingInt_repr (o : Int) {rest : List Char} (h : rest.head?.all (!·.isDigit)) :
    leadingInt (o.repr.toList ++ rest) = o := by
  rw [Int.repr_eq_if]
  split
  · rw [Nat.repr_eq_ofList_toDigits, String.toList_ofList, leadingInt_digits _ h]
    omega
  · simp only [Nat.repr_eq_ofList_toDigits, String.toList_append, String.toList_ofList]
    show -((Nat.ofDigitChars 10
      ((Nat.toDigits 10 (-o).toNat ++ rest).takeWhile Char.isDigit) 0 : Nat) : Int) = o
    rw [takeWhile_digits _ h, Nat.ofDigitChars_ten_toDigits]
    omega

/-- A failure about an issue outside the document names the offset of the issue. -/
theorem Failure.offset?_outside {f : Failure} {o : Int} {n : Nat} {message : String}
    (h : f.message = s!"{(PositionError.outside o n).message}: {message}") :
    f.offset? = some o := by
  have hmsg : f.message = "Byte offset " ++ o.repr ++ " is outside the document (length " ++
      n.repr ++ ")" ++ ": " ++ message := h
  simp only [String.append_assoc] at hmsg
  unfold Failure.offset? Text.after?
  rw [hmsg, String.toList_append, String.toList_append, String.toList_append, if_pos (by simp),
    List.drop_left, Option.map_some, leadingInt_repr o (by simp)]

theorem Failure.offset?_unhandled {f : Failure} {name : String} {fault : Fault}
    (h : f.message = unhandledMessage name fault) : f.offset? = none := by
  have hmsg : f.message = "Unhandled error in " ++ name ++ ": " ++ fault.message := h
  rw [String.append_assoc, String.append_assoc] at hmsg
  unfold Failure.offset? Text.after?
  rw [hmsg, String.toList_append, if_neg (by simp), Option.map_none]

/-! ## What a ledger lets through -/

/-- A diagnostic shows where its rule is active. Those on directives themselves always do. -/
def Ledger.shows (l : Ledger) (d : Diagnostic) : Bool :=
  decide (d.rule = .noLint) || l.isActive d.rule d.offset

/-- A failure about an issue outside the document is kept where its rule is active, any other
always. -/
def Ledger.keeps (l : Ledger) (f : Failure) : Bool :=
  match f.rule, f.offset? with
  | some rule, some offset => l.isActive rule offset
  | _, _ => true

namespace Report

/-- The entries of a report that a ledger lets through. -/
def suppress (l : Ledger) (r : Report) : Report :=
  { r with diagnostics := r.diagnostics.filter l.shows, failures := r.failures.filter l.keeps }

theorem suppress_merge (l : Ledger) (a b : Report) :
    (a.merge b).suppress l = (a.suppress l).merge (b.suppress l) := by
  simp only [suppress, merge, List.filter_append]

theorem suppress_sort (l : Ledger) (r : Report) : r.sort.suppress l = (r.suppress l).sort := by
  simp only [suppress, sort, mergeSort_filter positionLe_trans positionLe_total]

theorem suppress_fail_unhandled (l : Ledger) (r : Report) (name : String) (fault : Fault)
    (rule : Option Rule) :
    (r.fail (unhandledMessage name fault) rule).suppress l =
      (r.suppress l).fail (unhandledMessage name fault) rule := by
  have hkeep : l.keeps { message := unhandledMessage name fault, rule, filename := r.filename } =
      true := by
    unfold Ledger.keeps
    rw [Failure.offset?_unhandled rfl]
    split
    · rename_i h
      cases h
    · rfl
  simp only [suppress, fail, List.filter_append, List.filter_cons_of_pos hkeep, List.filter_nil]

/-- Suppressing entries is leaving out findings: each entry is let through as its finding is. -/
theorem suppress_ofFindings {s : Source} (hs : s.Valid) (l : Ledger) {rule : Rule}
    (hr : rule ≠ .noLint) (findings : List Finding) :
    (ofFindings rule s findings).suppress l =
      ofFindings rule s (findings.filter fun f => l.isActive rule f.offset) := by
  unfold suppress ofFindings
  simp only [Report.mk.injEq, true_and]
  constructor
  · rw [List.filter_filterMap, List.filterMap_filter]
    congr 1
    funext f
    cases hd : placed? rule s f with
    | none => rw [ite_self]; rfl
    | some d =>
      obtain ⟨hrule, hoff, _⟩ := placed?_eq_some hs hd
      simp [Option.filter_some, Ledger.shows, hrule, hoff, hr]
  · rw [List.filter_filterMap, List.filterMap_filter]
    congr 1
    funext f
    cases hg : stray? rule s f with
    | none => rw [ite_self]; rfl
    | some g =>
      obtain ⟨hrule, hmsg⟩ := stray?_eq_some hs hg
      simp [Option.filter_some, Ledger.keeps, hrule, Failure.offset?_outside hmsg]

end Report

theorem Ledger.start_nil_isActive (r : Rule) (p : Int) : (Ledger.start []).isActive r p = true := by
  rw [start_isActive]
  rfl

/-- What is detected is reported in full where every rule is active, and otherwise suppressed. -/
theorem Detection.report_suppress {s : Source} (hs : s.Valid) (d : Detection)
    (l : Ledger) {rule : Rule} (hr : rule ≠ .noLint) :
    d.report l rule s = (d.report (Ledger.start []) rule s).suppress l := by
  have hall : (d.findings.filter fun f => (Ledger.start []).isActive rule f.offset) = d.findings :=
    List.filter_eq_self.mpr fun f _ => Ledger.start_nil_isActive rule f.offset
  unfold Detection.report
  rw [hall]
  cases d.fault with
  | none => exact (Report.suppress_ofFindings hs l hr d.findings).symm
  | some fault =>
    simp only [Report.suppress_fail_unhandled, Report.suppress_ofFindings hs l hr d.findings]

/-! ## The run -/

/-- One run holds what the other lets through, and both have the same session. -/
structure Progress.SuppressedBy (l : Ledger) (p all : Progress) : Prop where
  report : p.report = all.report.suppress l
  session : p.session = all.session

theorem Progress.SuppressedBy.runCheck {settings : Settings} {toolkit : Toolkit} {s : Source}
    (hs : s.Valid) {l : Ledger} (hl : l.isLocked .parserFailed = false) {p all : Progress}
    (h : p.SuppressedBy l all) {check : Check} (hd : check.Detects) (hr : check.rule ≠ .noLint) :
    (p.runCheck ⟨settings, l, toolkit⟩ s check).SuppressedBy l
      (all.runCheck ⟨settings, Ledger.start [], toolkit⟩ s check) := by
  obtain ⟨outcome, next, hrun⟩ := hd settings toolkit true s all.session hs
  have hp := hrun l hl
  have hall := hrun (Ledger.start []) rfl
  unfold Progress.runCheck
  rw [h.session, hp, hall]
  cases outcome with
  | ok d =>
    refine ⟨?_, rfl⟩
    simp only [Except.map, Report.suppress_merge, ← h.report, ← Detection.report_suppress hs d l hr]
  | error fault =>
    refine ⟨?_, rfl⟩
    simp only [Except.map, Report.suppress_fail_unhandled, ← h.report]

theorem Progress.SuppressedBy.runChecks (settings : Settings) (toolkit : Toolkit) {s : Source}
    (hs : s.Valid) {l : Ledger} (hl : l.isLocked .parserFailed = false) (checks : List Check)
    (hc : ∀ check ∈ checks, check ∈ Check.builtin) :
    ∀ {p all : Progress}, p.SuppressedBy l all →
      (p.runChecks ⟨settings, l, toolkit⟩ s checks).SuppressedBy l
        (all.runChecks ⟨settings, Ledger.start [], toolkit⟩ s checks) := by
  induction checks with
  | nil => intro p all h; exact h
  | cons check rest ih =>
    intro p all h
    have hb := hc check List.mem_cons_self
    exact ih (fun c hm => hc c (List.mem_cons_of_mem _ hm))
      (h.runCheck hs hl (Check.builtin_detects hb) (Check.builtin_rule_ne_noLint hb))

/-! ## What entries of a run are about -/

/-- A failure is about an issue outside the document, whose offset it names, or about a fault. -/
inductive Failure.Explained (s : Source) (f : Failure) : Prop
  | outside (rule : Rule) (offset : Int) (message : String) :
      ¬ (0 ≤ offset ∧ offset ≤ s.text.size) → f.rule = some rule →
      f.message = s!"{(PositionError.outside offset s.text.size).message}: {message}" →
      f.offset? = some offset → Explained s f
  | fault (name : String) (fault : Fault) :
      f.message = unhandledMessage name fault → f.offset? = none → Explained s f

theorem Report.explained_ofFindings {s : Source} (hs : s.Valid) (rule : Rule)
    (findings : List Finding) :
    ∀ f ∈ (ofFindings rule s findings).failures, f.Explained s := by
  intro f hf
  obtain ⟨g, _, hg⟩ := List.mem_filterMap.mp hf
  obtain ⟨hr, hm⟩ := stray?_eq_some hs hg
  refine .outside rule g.offset g.message ?_ hr hm (Failure.offset?_outside hm)
  intro hin
  rcases Source.translate_cases hs g.offset with ⟨_, _, p, hp, _⟩ | ⟨hout, _⟩
  · simp only [stray?, hp] at hg
    cases hg
  · exact hout hin

theorem Report.explained_fail {s : Source} {r : Report} (h : ∀ f ∈ r.failures, f.Explained s)
    (name : String) (fault : Fault) (rule : Option Rule) :
    ∀ f ∈ (r.fail (unhandledMessage name fault) rule).failures, f.Explained s := by
  intro f hf
  rcases List.mem_append.mp hf with hf | hf
  · exact h f hf
  · rw [List.mem_singleton.mp hf]
    exact .fault name fault rfl (Failure.offset?_unhandled rfl)

theorem Progress.runChecks_explained {s : Source} (hs : s.Valid) (c : Context) (checks : List Check)
    (hc : ∀ check ∈ checks, check ∈ Check.builtin) (p : Progress)
    (hp : ∀ f ∈ p.report.failures, f.Explained s) :
    ∀ f ∈ (p.runChecks c s checks).report.failures, f.Explained s := by
  refine Progress.runChecks_induct (P := fun r => ∀ f ∈ r.failures, f.Explained s) hs c ?_ ?_
    checks hc p hp
  · intro r d rule _ hr f hf
    rcases List.mem_append.mp hf with hf | hf
    · exact hr f hf
    · have hfound := Report.explained_ofFindings hs rule
        (d.findings.filter fun f => c.ledger.isActive rule f.offset)
      unfold Detection.report at hf
      cases hd : d.fault with
      | none => rw [hd] at hf; exact hfound f hf
      | some fault => rw [hd] at hf; exact Report.explained_fail hfound _ _ _ f hf
  · intro r rule fault hr
    exact Report.explained_fail hr _ _ _

theorem Detection.report_rule {s : Source} (hs : s.Valid) (d : Detection) (l : Ledger)
    (rule : Rule) :
    ∀ x ∈ (d.report l rule s).diagnostics, x.rule = rule := by
  intro x hx
  rw [report_diagnostics] at hx
  obtain ⟨f, _, hf⟩ := List.mem_filterMap.mp hx
  exact (Report.placed?_eq_some hs hf).1

namespace Report

/-- The diagnostics of a report under a rule. -/
def under (r : Report) (rule : Rule) : List Diagnostic :=
  r.diagnostics.filter fun d => decide (d.rule = rule)

theorem mem_under {r : Report} {rule : Rule} {d : Diagnostic} :
    d ∈ r.under rule ↔ d ∈ r.diagnostics ∧ d.rule = rule := by
  simp [under]

theorem under_merge (a b : Report) (rule : Rule) :
    (a.merge b).under rule = a.under rule ++ b.under rule :=
  List.filter_append _ _

end Report

/-- Built-in checks add nothing under `nolint`. -/
theorem Progress.runChecks_under_noLint {s : Source} (hs : s.Valid) (c : Context)
    (checks : List Check) (hc : ∀ check ∈ checks, check ∈ Check.builtin) (p : Progress) :
    (p.runChecks c s checks).report.under .noLint = p.report.under .noLint := by
  refine Progress.runChecks_induct (P := fun r => r.under .noLint = p.report.under .noLint) hs c
    ?_ ?_ checks hc p rfl
  · intro r d rule hne hr
    have hnone : (d.report c.ledger rule s).under .noLint = [] := by
      refine List.filter_eq_nil_iff.mpr ?_
      intro x hx
      simpa [Detection.report_rule hs d c.ledger rule x hx] using hne
    rw [Report.under_merge, hnone, List.append_nil, hr]
  · intro r rule fault hr
    exact hr

theorem Progress.runChecks_noLint {s : Source} (hs : s.Valid) (c : Context) (checks : List Check)
    (hc : ∀ check ∈ checks, check ∈ Check.builtin) (p : Progress) :
    ∀ d ∈ (p.runChecks c s checks).report.diagnostics, d.rule = .noLint →
        d ∈ p.report.diagnostics := by
  intro d hd hrule
  have hunder := Report.mem_under.mpr ⟨hd, hrule⟩
  rw [Progress.runChecks_under_noLint hs c checks hc p] at hunder
  exact (Report.mem_under.mp hunder).1

/-- The report on unknown names is not suppressed: it has diagnostics on directives only. -/
theorem Progress.opening_suppress (settings : Settings) {s : Source} (hs : s.Valid) (l : Ledger) :
    (Progress.opening settings s).SuppressedBy l (Progress.opening settings s) := by
  refine ⟨?_, rfl⟩
  have hshow : ∀ d ∈ (Progress.opening settings s).report.diagnostics, l.shows d = true := by
    intro d hd
    obtain ⟨f, _, hf⟩ := List.mem_filterMap.mp hd
    simp only [Ledger.shows, (Report.placed?_eq_some hs hf).1, decide_true, Bool.true_or]
  have hnone := Progress.opening_failures settings hs
  rw [Report.suppress, hnone, List.filter_eq_self.mpr hshow, List.filter_nil, ← hnone]

theorem Progress.opening_locked (settings : Settings) (s : Source)
    (h : .noLint ∈ settings.lockedRules) :
    (Progress.opening settings s).report.diagnostics = [] := by
  unfold Progress.opening
  rw [List.contains_iff_mem.mpr h]
  rfl

/-- **Suppression is an exact filter.** Unless the rule on parsing is locked, checking a document
with built-in checks succeeds, and reports what the same checks report with every rule active
everywhere, in the same order, less the diagnostics and the failures about issues outside the
document at offsets where their rule is inactive in the document's ledger. Failures about faults
stay. A locked rule has no diagnostic, whatever the directives say. -/
theorem lint_eq_suppressed (settings : Settings) (registry : Registry)
    (toolkit : Toolkit) (text : Text) (filename : Option String)
    (hparser : .parserFailed ∉ settings.lockedRules)
    (hbuiltin : ∀ check ∈ registry.checks, check ∈ Check.builtin) :
    ∃ l p all, Directive.ledger (settings.source text filename) settings.lockedRules = .ok l ∧
      lint settings registry toolkit text filename = .ok p ∧
      lintUnder (Ledger.start []) settings registry toolkit text filename = .ok all ∧
      p.report.diagnostics = all.report.diagnostics.filter l.shows ∧
      p.report.failures = all.report.failures.filter l.keeps ∧
      (∀ f ∈ all.report.failures, f.Explained (settings.source text filename)) ∧
      ∀ r ∈ settings.lockedRules, ∀ d ∈ p.report.diagnostics, d.rule ≠ r := by
  have hs := Source.valid_of_settings settings text filename
  obtain ⟨l, hl, hlk, hact⟩ :=
    Directive.ledger_spec (settings.source text filename) settings.lockedRules
  have hopen : l.isLocked .parserFailed = false := by
    rw [Ledger.isLocked, hlk]
    exact decide_eq_false hparser
  have hrun := Progress.SuppressedBy.runChecks settings toolkit hs hopen registry.checks hbuiltin
    (Progress.opening_suppress settings hs l)
  have hrep := (congrArg Report.sort hrun.report).trans (Report.suppress_sort l _).symm
  refine ⟨l, _, _, hl, (lint_eq_lintUnder settings registry toolkit text filename hl).trans
    (lintUnder_eq settings registry toolkit text filename l),
    lintUnder_eq settings registry toolkit text filename _, congrArg Report.diagnostics hrep,
    congrArg Report.failures hrep, ?_, ?_⟩
  · exact Progress.runChecks_explained hs _ registry.checks hbuiltin _
      (Report.explained_ofFindings hs _ _)
  · intro r hr d hd hrule
    have hoff : l.isActive d.rule d.offset = false := by
      rw [hact, hrule, decide_eq_false (not_not_intro hr), Bool.false_and]
    rw [congrArg Report.diagnostics hrep] at hd
    obtain ⟨hd, hshow⟩ := List.mem_filter.mp hd
    -- only the report on unknown names could hold it, and that is empty if its rule is locked
    have hnl : d.rule = .noLint := by
      rw [Ledger.shows, hoff, Bool.or_false] at hshow
      exact of_decide_eq_true hshow
    have hin := Progress.runChecks_noLint hs _ registry.checks hbuiltin _ d
      (List.mem_mergeSort.mp hd) hnl
    rw [Progress.opening_locked settings _ (hnl ▸ hrule ▸ hr)] at hin
    exact List.not_mem_nil hin

/-- A document with two strings in the wrong quotes, the second one behind a directive. -/
def switchedQuotes : Text := Text.ofString "\"a\"-- NOLINT(single-or-double-quote)\n\"b\""

/-- The second string would be reported, and is filtered out. -/
theorem lint_eq_suppressed_quotes :
    ∃ l p all, Directive.ledger (Settings.source {} switchedQuotes none) [] = .ok l ∧
      lint {} ⟨[.quoteStyle]⟩ Toolkit.empty switchedQuotes none = .ok p ∧
      lintUnder (Ledger.start []) {} ⟨[.quoteStyle]⟩ Toolkit.empty switchedQuotes none = .ok all ∧
      p.report.diagnostics = all.report.diagnostics.filter l.shows ∧
      (all.report.diagnostics.map fun d => (d.rule, d.offset)).Perm
        [(.quoteStyle, 0), (.quoteStyle, 37)] ∧
      (p.report.diagnostics.map fun d => (d.rule, d.offset)) = [(.quoteStyle, 0)] := by
  obtain ⟨l, p, all, hl, hp, hall, hfilter, -⟩ := lint_eq_suppressed {} ⟨[.quoteStyle]⟩
    Toolkit.empty switchedQuotes none (by decide +kernel) (by simp [Check.builtin])
  have hfound : (Progress.runChecks ⟨{}, Ledger.start [], Toolkit.empty⟩
      (Settings.source {} switchedQuotes none)
      (Progress.opening {} (Settings.source {} switchedQuotes none))
      [.quoteStyle]).report.diagnostics.map (fun d => (d.rule, d.offset)) =
        [(.quoteStyle, 0), (.quoteStyle, 37)] := by
    decide +kernel
  have hperm : (all.report.diagnostics.map fun d => (d.rule, d.offset)).Perm
      [(.quoteStyle, 0), (.quoteStyle, 37)] := by
    rw [lintUnder_eq] at hall
    cases hall
    rw [← hfound]
    exact (List.mergeSort_perm _ _).map _
  have hactive : (Directive.ledger (Settings.source {} switchedQuotes none) []).toOption.map
      (fun l => (l.isActive .quoteStyle 0, l.isActive .quoteStyle 37)) = some (true, false) := by
    decide +kernel
  rw [show Directive.ledger (Settings.source {} switchedQuotes none) [] = .ok l from hl] at hactive
  obtain ⟨hfirst, hsecond⟩ := Prod.mk.inj (Option.some.inj hactive)
  refine ⟨l, p, all, hl, hp, hall, hfilter, hperm, ?_⟩
  -- whether a diagnostic is shown is told by its rule and its offset
  have hshown := hperm.filter fun d => decide (d.1 = .noLint) || l.isActive d.1 d.2
  have hkept : [(Rule.quoteStyle, 0), (Rule.quoteStyle, 37)].filter
      (fun d : Rule × Nat => decide (d.1 = .noLint) || l.isActive d.1 d.2) =
        [(Rule.quoteStyle, 0)] := by
    simp [hfirst, hsecond]
  rw [hkept, List.filter_map] at hshown
  rw [hfilter]
  exact List.perm_singleton.mp hshown

end SqlStyle
