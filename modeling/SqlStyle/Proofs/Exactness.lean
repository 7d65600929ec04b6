import Mathlib.Data.List.Basic
import SqlStyle.Proofs.Streaming
import SqlStyle.Proofs.Suppression

/-! # Reports on exactly the offsets with a property

A report that was made at all holds one entry for each finding, whatever the width of tabs: a
finding that cannot be placed is a fault and leaves no report (`Ledger.report_lists`). So a check of
the text, where its rule is active everywhere, is described by a property of offsets: it reports
those that have it, each once and in order, and nothing else (`Check.ReportsExactly`). -/

namespace SqlStyle

theorem Source.inside_of_translate {s : Source} {offset : Int} {p : Position}
    (h : s.translate offset = .ok p) : 0 ≤ offset ∧ offset ≤ s.text.size := by
  unfold translate at h
  split at h
  · assumption
  · cases h

namespace Report

theorem placed?_fields {rule : Rule} {s : Source} {f : Finding} {d : Diagnostic}
    (h : placed? rule s f = some d) :
    d.rule = rule ∧ (d.offset : Int) = f.offset := by
  unfold placed? at h
  split at h
  · rename_i p hp
    cases h
    exact ⟨rfl, Int.toNat_of_nonneg (Source.inside_of_translate hp).1⟩
  · cases h

/-- What a report says and where: the offsets and messages of its diagnostics. -/
def findings (r : Report) : List Finding := r.diagnostics.map fun d => ⟨d.offset, d.message⟩

theorem placed?_finding {rule : Rule} {s : Source} {f : Finding} {d : Diagnostic}
    (h : placed? rule s f = some d) : (⟨d.offset, d.message⟩ : Finding) = f := by
  have hoffset := (placed?_fields h).2
  unfold placed? at h
  split at h
  · cases h
    rw [hoffset]
  · cases h

/-- What has a place is no failure. -/
theorem stray?_eq_none {rule : Rule} {s : Source} {f : Finding} {d : Diagnostic}
    (h : placed? rule s f = some d) : stray? rule s f = none := by
  unfold placed? at h
  unfold stray?
  split at h
  · rename_i p hp
    rw [hp]
  · cases h

/-- What lies outside the document has no place, and its failure names where it lies. -/
theorem outside_entries (rule : Rule) {s : Source} {f : Finding} (h : ¬ f.Inside s) :
    placed? rule s f = none ∧ ∃ g, stray? rule s f = some g ∧ g.rule = some rule ∧
        g.offset? = some f.offset := by
  have herr : s.translate f.offset = .error (.outside f.offset s.text.size) := if_neg h
  refine ⟨by rw [placed?, herr], ⟨_, some rule, s.filename⟩, by rw [stray?, herr], rfl, ?_⟩
  exact Failure.offset?_outside rfl

/-- A finding that was added is in the report; inside the document it has a place. -/
theorem add_of_ok {rule : Rule} {s : Source} {f : Finding} {r next : Report}
    (hr : r.filename = s.filename) (h : r.add rule s f.offset f.message = .ok next) :
    next = r.merge (ofFindings rule s [f]) ∧ (f.Inside s → ∃ d, placed? rule s f = some d) := by
  unfold add addOf at h
  cases ht : s.translate f.offset with
  | ok p =>
    simp only [ht, addAt] at h
    split at h
    · cases h
      exact ⟨by simp [merge, ofFindings, placed?, stray?, ht], fun _ => ⟨_, by rw [placed?, ht]⟩⟩
    · cases h
  | error e =>
    cases e with
    | outside o n =>
      simp only [ht, Option.isSome_some, if_true] at h
      cases h
      refine ⟨by simp [merge, ofFindings, placed?, stray?, ht, fail, hr], fun hin => ?_⟩
      cases Source.translate_error hin ht
    | zeroTabWidth =>
      simp only [ht] at h
      cases h

theorem foldlM_add_of_ok {rule : Rule} {s : Source} (findings : List Finding) :
    ∀ {r next : Report}, r.filename = s.filename →
      findings.foldlM (fun report f => report.add rule s f.offset f.message) r = .ok next →
      next = r.merge (ofFindings rule s findings) ∧
        ∀ f ∈ findings, f.Inside s → ∃ d, placed? rule s f = some d := by
  induction findings with
  | nil =>
    intro r next _ h
    cases h
    exact ⟨(merge_ofFindings_nil r rule s).symm, fun f hf => by cases hf⟩
  | cons f rest ih =>
    intro r next hr h
    rw [List.foldlM_cons] at h
    cases hadd : r.add rule s f.offset f.message with
    | error fault => rw [hadd] at h; cases h
    | ok mid =>
      rw [hadd] at h
      obtain ⟨rfl, hplace⟩ := add_of_ok hr hadd
      obtain ⟨rfl, hrest⟩ := ih (r := r.merge (ofFindings rule s [f])) hr h
      refine ⟨?_, List.forall_mem_cons.mpr ⟨hplace, hrest⟩⟩
      rw [merge_assoc, ← ofFindings_append, List.singleton_append]

/-- The report lists offsets: in order, one diagnostic of the rule for each of them that lies inside
the document and one failure that names it for each that does not. -/
structure Lists (rule : Rule) (s : Source) (offsets : List Int) (r : Report) : Prop where
  rules : ∀ d ∈ r.diagnostics, d.rule = rule
  diagnostics : (r.diagnostics.map fun d => (d.offset : Int)) =
    offsets.filter fun p : Int => decide (0 ≤ p ∧ p ≤ s.text.size)
  failureRules : ∀ g ∈ r.failures, g.rule = some rule
  failures : r.failures.map Failure.offset? =
    (offsets.filter fun p : Int => decide (¬ (0 ≤ p ∧ p ≤ s.text.size))).map some

/-- An offset with a diagnostic is one of those listed. -/
theorem Lists.offset_mem {rule : Rule} {s : Source} {offsets : List Int} {r : Report}
    (h : r.Lists rule s offsets) {d : Diagnostic} (hd : d ∈ r.diagnostics) :
    (d.offset : Int) ∈ offsets := by
  have hmem := List.mem_map_of_mem (f := fun d : Diagnostic => (d.offset : Int)) hd
  rw [h.diagnostics] at hmem
  exact (List.mem_filter.mp hmem).1

theorem filter_offsets (test : Int → Bool) (findings : List Finding) :
    (findings.map Finding.offset).filter test = findings.filterMap fun f =>
        Option.guard test f.offset := by
  rw [← List.filterMap_eq_filter, List.filterMap_map]
  rfl

theorem ofFindings_lists {rule : Rule} {s : Source} {findings : List Finding}
    (h : ∀ f ∈ findings, f.Inside s → ∃ d, placed? rule s f = some d) :
    (ofFindings rule s findings).Lists rule s (findings.map Finding.offset) where
  rules := by
    intro d hd
    obtain ⟨f, _, hf⟩ := List.mem_filterMap.mp hd
    exact (placed?_fields hf).1
  diagnostics := by
    rw [filter_offsets, ofFindings, List.map_filterMap]
    refine List.filterMap_congr fun f hf => ?_
    by_cases hin : 0 ≤ f.offset ∧ f.offset ≤ s.text.size
    · obtain ⟨d, hd⟩ := h f hf hin
      rw [hd, Option.map_some, (placed?_fields hd).2, Option.guard, if_pos (by simpa using hin)]
    · rw [(outside_entries rule hin).1, Option.guard, if_neg (by simpa using hin)]
      rfl
  failureRules := by
    intro g hg
    obtain ⟨f, hf, hfg⟩ := List.mem_filterMap.mp hg
    by_cases hin : 0 ≤ f.offset ∧ f.offset ≤ s.text.size
    · obtain ⟨d, hd⟩ := h f hf hin
      rw [stray?_eq_none hd] at hfg
      cases hfg
    · obtain ⟨-, g', hg', hrule, -⟩ := outside_entries rule hin
      rw [hg'] at hfg
      cases hfg
      exact hrule
  failures := by
    rw [filter_offsets, ofFindings, List.map_filterMap, List.map_filterMap]
    refine List.filterMap_congr fun f hf => ?_
    by_cases hin : 0 ≤ f.offset ∧ f.offset ≤ s.text.size
    · obtain ⟨d, hd⟩ := h f hf hin
      rw [stray?_eq_none hd, Option.guard, if_neg (by simpa using hin)]
      rfl
    · obtain ⟨-, g, hg, -, hnames⟩ := outside_entries rule hin
      rw [hg, Option.map_some, hnames, Option.guard, if_pos (decide_eq_true hin)]
      rfl

/-- A report on findings that all have a place says these, in order, and nothing else. -/
theorem ofFindings_of_placed {rule : Rule} {s : Source} {findings : List Finding}
    (h : ∀ f ∈ findings, ∃ d, placed? rule s f = some d) :
    (ofFindings rule s findings).failures = [] ∧
      (∀ d ∈ (ofFindings rule s findings).diagnostics, d.rule = rule) ∧
      (ofFindings rule s findings).findings = findings := by
  refine ⟨?_, ?_, ?_⟩
  · refine List.filterMap_eq_nil_iff.mpr fun f hf => ?_
    obtain ⟨d, hd⟩ := h f hf
    exact stray?_eq_none hd
  · intro d hd
    obtain ⟨f, -, hf⟩ := List.mem_filterMap.mp hd
    exact (placed?_fields hf).1
  · rw [Report.findings, ofFindings, List.map_filterMap]
    refine (List.filterMap_congr fun f hf => ?_).trans List.filterMap_some
    obtain ⟨d, hd⟩ := h f hf
    rw [hd, Option.map_some, placed?_finding hd]

/-- So does a report on findings inside a document whose tabs have a positive width. -/
theorem ofFindings_of_inside {s : Source} (hs : s.Valid) (rule : Rule) {findings : List Finding}
    (h : ∀ f ∈ findings, f.Inside s) :
    (ofFindings rule s findings).failures = [] ∧
        (ofFindings rule s findings).findings = findings := by
  have hplaced : ∀ f ∈ findings, ∃ d, placed? rule s f = some d := by
    intro f hf
    rcases Source.translate_cases hs f.offset with ⟨-, -, p, hp, -⟩ | ⟨hout, -⟩
    · exact ⟨_, by rw [placed?, hp]⟩
    · exact absurd (h f hf) hout
  obtain ⟨hfailures, -, hfindings⟩ := ofFindings_of_placed hplaced
  exact ⟨hfailures, hfindings⟩

/-- The report is on the offsets with a property: one diagnostic of the rule for each of them, in
increasing order, and nothing else. -/
structure ExactlyAt (rule : Rule) (P : Nat → Prop) (r : Report) : Prop where
  failures : r.failures = []
  rules : ∀ d ∈ r.diagnostics, d.rule = rule
  increasing : (r.diagnostics.map Diagnostic.offset).Pairwise (· < ·)
  offsets : ∀ p, (∃ d ∈ r.diagnostics, d.offset = p) ↔ P p

/-- Where at most one offset has the property, at most one diagnostic is reported. -/
theorem ExactlyAt.length_le_one {rule : Rule} {P : Nat → Prop} {r : Report} (h : r.ExactlyAt rule P)
    (hP : ∀ p q, P p → P q → p = q) : r.diagnostics.length ≤ 1 := by
  match hd : r.diagnostics with
  | [] => simp
  | [d] => simp
  | d :: e :: rest =>
    have hat : ∀ x ∈ r.diagnostics, P x.offset := fun x hx => (h.offsets x.offset).mp ⟨x, hx, rfl⟩
    have heq : d.offset = e.offset := hP _ _ (hat d (by simp [hd])) (hat e (by simp [hd]))
    have hlt := h.increasing
    rw [hd, List.map_cons, List.map_cons] at hlt
    exact absurd heq (Nat.ne_of_lt ((List.pairwise_cons.mp hlt).1 _ List.mem_cons_self))

end Report

/-- A report that a ledger let through holds the findings at which the rule is active, and each of
them that lies inside the document has a place. -/
theorem Ledger.report_of_ok {l : Ledger} {rule : Rule} {s : Source} {findings : List Finding}
    {found : Report} (h : l.report rule s findings = .ok found) :
    found = Report.ofFindings rule s (findings.filter fun f => l.isActive rule f.offset) ∧
      ∀ f ∈ findings.filter fun f => l.isActive rule f.offset,
        f.Inside s → ∃ d, Report.placed? rule s f = some d :=
  Report.foldlM_add_of_ok _ (r := Report.forSource s) rfl h

theorem Ledger.filter_active {l : Ledger} {rule : Rule} (h : ∀ p, l.isActive rule p = true)
    (findings : List Finding) : (findings.filter fun f => l.isActive rule f.offset) = findings :=
  List.filter_eq_self.mpr fun f _ => h f.offset

/-- A report on findings inside the document says these, in order, where the rule is active, and
nothing else. -/
theorem Ledger.report_findings {l : Ledger} {rule : Rule} {s : Source} {findings : List Finding}
    {found : Report} (hinside : ∀ f ∈ findings, f.Inside s)
    (h : l.report rule s findings = .ok found) :
    found.failures = [] ∧ (∀ d ∈ found.diagnostics, d.rule = rule) ∧
      found.findings = findings.filter fun f => l.isActive rule f.offset := by
  obtain ⟨rfl, hplaced⟩ := report_of_ok h
  exact Report.ofFindings_of_placed fun f hf => hplaced f hf (hinside f (List.mem_filter.mp hf).1)

/-- A report that was made lists what was found where the rule is active everywhere. -/
theorem Ledger.report_lists {l : Ledger} {rule : Rule} {s : Source} {findings : List Finding}
    {found : Report} (hactive : ∀ p, l.isActive rule p = true)
    (h : l.report rule s findings = .ok found) :
    found.Lists rule s (findings.map Finding.offset) := by
  obtain ⟨rfl, hplaced⟩ := report_of_ok h
  rw [filter_active hactive] at hplaced ⊢
  exact Report.ofFindings_lists hplaced

namespace Check

/-- The check comes to a report where tabs have a positive width, if they have one at all, and every
report it comes to is on exactly the offsets with the property. -/
structure ReportsExactly (check : Check) (c : Context) (s : Source) (P : Nat → Prop) : Prop where
  reports : s.Valid → ∀ session, ∃ found, (check.run c s session).1 = .ok found
  exact : ∀ session found, (check.run c s session).1 = .ok found → found.ExactlyAt check.rule P

/-- A check of the text reports exactly the indices with a property, if it finds these in increasing
order. -/
theorem ofText_reportsExactly {rule : Rule} {detect : Settings → Source → List Finding}
    {c : Context} {s : Source} {P : Nat → Prop} {indices : List Nat}
    (hactive : ∀ p, c.ledger.isActive rule p = true)
    (hdetect : (detect c.settings s).map Finding.offset = indices.map Int.ofNat)
    (hincreasing : indices.Pairwise (· < ·)) (hsize : ∀ i ∈ indices, i ≤ s.text.size)
    (hmem : ∀ i, i ∈ indices ↔ P i) : (ofText rule detect).ReportsExactly c s P := by
  constructor
  · intro hs session
    exact ⟨_, Ledger.report_eq hs c.ledger rule (detect c.settings s)⟩
  · intro session found h
    have hlists := Ledger.report_lists hactive h
    rw [hdetect] at hlists
    have hinside : ∀ p ∈ indices.map Int.ofNat, 0 ≤ p ∧ p ≤ s.text.size := by
      intro p hp
      obtain ⟨i, hi, rfl⟩ := List.mem_map.mp hp
      exact ⟨Int.natCast_nonneg i, Int.ofNat_le.mpr (hsize i hi)⟩
    have hoffsets : found.diagnostics.map Diagnostic.offset = indices := by
      refine List.map_injective_iff.mpr (fun _ _ => Int.ofNat.inj) ?_
      rw [List.map_map]
      refine hlists.diagnostics.trans (List.filter_eq_self.mpr fun p hp => ?_)
      exact decide_eq_true (hinside p hp)
    refine ⟨?_, hlists.rules, by rwa [hoffsets], fun p => by rw [← hmem, ← hoffsets, List.mem_map]⟩
    have hnone : (indices.map Int.ofNat).filter (fun p : Int =>
        decide (¬ (0 ≤ p ∧ p ≤ s.text.size))) = [] :=
      List.filter_eq_nil_iff.mpr fun p hp hout => of_decide_eq_true hout (hinside p hp)
    have hfailures := hlists.failures
    rw [hnone] at hfailures
    exact List.map_eq_nil_iff.mp hfailures

end Check

end SqlStyle
