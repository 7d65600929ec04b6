import Mathlib.Data.List.Basic
import SqlStyle.Proofs.Suppression
import SqlStyle.Proofs.Turns

/-! # Unknown names in directives

A name in a directive that no rule goes by is reported under a rule of its own, `nolint`, which
directives can name like any other. These diagnostics are added while the directives are read,
before there is a ledger, and no check reports under that rule. So the ledger does not filter them:
unless the rule is locked, every unknown name is reported at the end of its comment, also where the
ledger has the rule inactive. -/

namespace SqlStyle

/-- What a diagnostic was reported for. -/
def Diagnostic.finding (d : Diagnostic) : Finding := ⟨d.offset, d.message⟩

namespace Report

theorem under_sort {s : Source} (hs : s.Valid) {r : Report} (h : r.InPlace s) (rule : Rule) :
    r.sort.under rule = (r.under rule).mergeSort offsetLe := by
  unfold under
  rw [h.sort_eq hs, mergeSort_filter]
  · intro a b c hab hbc
    simp only [offsetLe, decide_eq_true_eq] at *
    omega
  · intro a b
    simp only [offsetLe, Bool.or_eq_true, decide_eq_true_eq]
    omega

/-- Findings inside the document become one diagnostic each, in their order. -/
theorem ofFindings_under {s : Source} (hs : s.Valid) (rule : Rule) {findings : List Finding}
    (h : ∀ f ∈ findings, f.Inside s) :
    ((ofFindings rule s findings).under rule).map Diagnostic.finding = findings := by
  have hall : (ofFindings rule s findings).under rule = findings.filterMap (placed? rule s) := by
    refine List.filter_eq_self.mpr ?_
    intro d hd
    obtain ⟨f, _, hf⟩ := List.mem_filterMap.mp hd
    exact decide_eq_true (placed?_eq_some hs hf).1
  have hone : ∀ f ∈ findings, (placed? rule s f).map Diagnostic.finding = some f := by
    intro f hf
    rcases Source.translate_cases hs f.offset with ⟨h0, _, p, hp, _⟩ | ⟨hout, _⟩
    · simp [placed?, hp, Diagnostic.finding, Int.toNat_of_nonneg h0]
    · exact absurd (h f hf) hout
  rw [hall, List.map_filterMap, List.filterMap_congr hone, List.filterMap_some]

end Report

theorem Directive.unknownFindings_pairwise (s : Source) (reportUnknown : Bool) :
    (unknownFindings s reportUnknown).Pairwise (·.offset ≤ ·.offset) := by
  unfold unknownFindings
  split
  · refine List.pairwise_flatMap.mpr ⟨?_, (inSource_pairwise s).imp ?_⟩
    · intro d _
      exact List.pairwise_map.mpr (List.pairwise_of_forall fun _ _ => Int.le_refl _)
    · intro a b hab x hx y hy
      obtain ⟨_, _, rfl⟩ := List.mem_map.mp hx
      obtain ⟨_, _, rfl⟩ := List.mem_map.mp hy
      exact Int.ofNat_le.mpr (Nat.le_of_lt hab)
  · exact List.Pairwise.nil

/-- Unknown names are found at the ends of the directives that have some. -/
theorem Directive.forall_unknownFindings (s : Source) (P : Int → Prop) :
    (∀ f ∈ unknownFindings s true, P f.offset) ↔ ∀ d ∈ inSource s, d.unknownNames ≠ [] →
        P d.position := by
  simp only [unknownFindings, if_true]
  constructor
  · intro h d hd hne
    obtain ⟨name, hname⟩ := List.exists_mem_of_ne_nil _ hne
    exact h ⟨d.position, _⟩ (List.mem_flatMap.mpr ⟨d, hd, List.mem_map_of_mem hname⟩)
  · intro h f hf
    obtain ⟨d, hd, hf⟩ := List.mem_flatMap.mp hf
    obtain ⟨name, hname, rfl⟩ := List.mem_map.mp hf
    exact h d hd (List.ne_nil_of_mem hname)

/-- The sorted report of a run has the unknown names under `nolint`, in the order in which they were
found. -/
theorem Progress.under_noLint_findings (settings : Settings) {s : Source}
    (hs : s.Valid) (c : Context) (checks : List Check)
    (hc : ∀ check ∈ checks, check ∈ Check.builtin) :
    (((Progress.opening settings s).runChecks c s checks).report.sort.under .noLint).map
        Diagnostic.finding =
      Directive.unknownFindings s (!settings.lockedRules.contains .noLint) := by
  have hinside : ∀ f ∈ Directive.unknownFindings s (!settings.lockedRules.contains .noLint),
      f.Inside s :=
    fun _ => Directive.unknownFindings_inside
  have hfound := Report.ofFindings_under hs .noLint hinside
  have hopen : (Progress.opening settings s).report.InPlace s := Report.inPlace_ofFindings hs _ _
  rw [Report.under_sort hs (Progress.runChecks_inPlace hs c checks hc _ hopen),
    Progress.runChecks_under_noLint hs c checks hc]
  -- the findings come in order, so sorting leaves them where they are
  have hpairwise := Directive.unknownFindings_pairwise s (!settings.lockedRules.contains .noLint)
  rw [← hfound, List.pairwise_map] at hpairwise
  refine Eq.trans (congrArg (List.map Diagnostic.finding) (List.mergeSort_of_pairwise ?_)) hfound
  refine hpairwise.imp ?_
  intro a b hab
  exact decide_eq_true (Int.ofNat_le.mp hab)

/-- **Which unknown names are reported.** Checking a document with built-in checks reports under
`nolint` exactly the names in directives that no rule goes by, in order, each at the end of its
comment, and none if the rule is locked. The ledger plays no part. So all of these diagnostics stand
where the ledger has the rule active just if the rule is locked, or no directive with an unknown
name stands where it is inactive. -/
theorem lint_noLint_eq (settings : Settings) (registry : Registry) (toolkit : Toolkit) (text : Text)
    (filename : Option String) (hbuiltin : ∀ check ∈ registry.checks, check ∈ Check.builtin) :
    ∃ l p, Directive.ledger (settings.source text filename) settings.lockedRules = .ok l ∧
      lint settings registry toolkit text filename = .ok p ∧
      (p.report.under .noLint).map Diagnostic.finding =
        Directive.unknownFindings (settings.source text filename)
          (!settings.lockedRules.contains .noLint) ∧
      ((∀ d ∈ p.report.diagnostics, d.rule = .noLint → l.isActive .noLint d.offset = true) ↔
        .noLint ∈ settings.lockedRules ∨
          ∀ d ∈ Directive.inSource (settings.source text filename), d.unknownNames ≠ [] →
            l.isActive .noLint d.position = true) := by
  have hs := Source.valid_of_settings settings text filename
  obtain ⟨l, hl, _⟩ := Directive.ledger_spec (settings.source text filename) settings.lockedRules
  have hfindings := Progress.under_noLint_findings settings hs ⟨settings, l, toolkit⟩
    registry.checks hbuiltin
  refine ⟨l, _, hl, (lint_eq_lintUnder settings registry toolkit text filename hl).trans
    (lintUnder_eq settings registry toolkit text filename l), hfindings, ?_⟩
  -- both sides speak about the findings
  have hside : ∀ r : Report, (∀ d ∈ r.diagnostics, d.rule = .noLint →
      l.isActive .noLint d.offset = true) ↔
      ∀ f ∈ (r.under .noLint).map Diagnostic.finding, l.isActive .noLint f.offset = true := by
    intro r
    simp only [List.forall_mem_map, Report.mem_under, Diagnostic.finding, and_imp]
  rw [hside, hfindings]
  by_cases hlocked : .noLint ∈ settings.lockedRules
  · simp [Directive.unknownFindings, hlocked]
  · rw [List.contains_eq_mem, decide_eq_false hlocked, Bool.not_false,
      Directive.forall_unknownFindings _ fun offset => l.isActive .noLint offset = true]
    simp only [hlocked, false_or]

/-- A directive switches rules from its end on, so an unknown name beside `nolint` is still
reported. -/
theorem lint_noLint_eq_beside :
    let text := Text.ofString "-- NOLINT(nolint, bogus)"
    (∀ check ∈ Registry.builtin.checks, check ∈ Check.builtin) ∧
    ∃ l p, Directive.ledger (({} : Settings).source text none) ({} : Settings).lockedRules = .ok l ∧
      lint {} Registry.builtin Toolkit.empty text none = .ok p ∧
      (p.report.under .noLint).map Diagnostic.finding =
        [⟨24, "Unknown NOLINT error category: 'bogus'"⟩] ∧
      ∀ d ∈ p.report.diagnostics, d.rule = .noLint → l.isActive .noLint d.offset = true := by
  intro text
  refine ⟨fun _ h => h, ?_⟩
  obtain ⟨l, p, hl, hp, hfindings, hobeys⟩ :=
    lint_noLint_eq {} Registry.builtin Toolkit.empty text none (fun _ h => h)
  obtain ⟨l', hl', _, hact⟩ := Directive.ledger_spec (({} : Settings).source text none) []
  obtain rfl : l = l' := Except.ok.inj (hl.symm.trans hl')
  refine ⟨l, p, hl, hp, hfindings.trans (by decide +kernel), hobeys.mpr (.inr ?_)⟩
  intro d hd _
  have hat : Directive.inSource (({} : Settings).source text none) =
      [⟨⟨.disable, ["nolint", "bogus"]⟩, 24⟩] := by decide +kernel
  rw [hat] at hd
  obtain rfl := List.mem_singleton.mp hd
  rw [hact]
  decide +kernel

/-- The second directive stands where the first has switched `nolint` off, and is reported all the
same. -/
theorem lint_noLint_unfiltered :
    let text := Text.ofString "-- NOLINT(nolint)\n-- NOLINT(bogus)"
    ∃ l p, Directive.ledger (({} : Settings).source text none) ({} : Settings).lockedRules = .ok l ∧
      lint {} Registry.builtin Toolkit.empty text none = .ok p ∧
      ∃ d ∈ p.report.diagnostics, d.rule = .noLint ∧ l.isActive .noLint d.offset = false := by
  intro text
  have hs := Source.valid_of_settings {} text none
  obtain ⟨l, hl, _, hact⟩ := Directive.ledger_spec (({} : Settings).source text none) []
  have hfound : Directive.unknownFindings (({} : Settings).source text none) true =
      [⟨34, "Unknown NOLINT error category: 'bogus'"⟩] := by decide +kernel
  have hfindings := (Progress.under_noLint_findings {} hs ⟨{}, l, Toolkit.empty⟩ Check.builtin
    (fun _ h => h)).trans hfound
  obtain ⟨d, hd, hfinding⟩ := List.map_eq_singleton_iff.mp hfindings
  obtain ⟨hmem, hrule⟩ := Report.mem_under.mp (hd ▸ List.mem_singleton_self d)
  refine ⟨l, _, hl, (lint_eq_lintUnder {} Registry.builtin Toolkit.empty text none hl).trans
    (lintUnder_eq {} Registry.builtin Toolkit.empty text none l), d, hmem, hrule, ?_⟩
  have hoffset : (d.offset : Int) = 34 := congrArg Finding.offset hfinding
  rw [hact, hoffset]
  decide +kernel

end SqlStyle
