import SqlStyle.Check.Basic
import SqlStyle.Directive
import SqlStyle.Proofs.Directives
import SqlStyle.Proofs.Positions
import SqlStyle.Proofs.StableSort

/-! # What a report holds

On a document whose tabs have a positive width, adding a finding always succeeds, so a report is a
function of its findings (`ofFindings`): those inside the document are its diagnostics, those
outside its failures, each in the order in which they were found. Sorting moves diagnostics only,
commutes with leaving some of them out, and puts those of one document in order of offset. -/

namespace SqlStyle

/-- The offset of a finding lies in the document; its end counts. -/
def Finding.Inside (s : Source) (f : Finding) : Prop := 0 ≤ f.offset ∧ f.offset ≤ s.text.size

namespace Report

/-- The diagnostic on a finding, if its offset lies in the document. -/
def placed? (rule : Rule) (s : Source) (f : Finding) : Option Diagnostic :=
  match s.translate f.offset with
  | .ok p => some { rule, offset := f.offset.toNat, line := p.line, column := p.column.toNat,
                    message := f.message, filename := s.filename }
  | .error _ => none

/-- The failure on a finding whose offset lies outside the document. -/
def stray? (rule : Rule) (s : Source) (f : Finding) : Option Failure :=
  match s.translate f.offset with
  | .error (.outside o n) =>
    some { message := s!"{(PositionError.outside o n).message}: {f.message}", rule := some rule,
           filename := s.filename }
  | _ => none

/-- The report that findings of a rule make up. -/
def ofFindings (rule : Rule) (s : Source) (findings : List Finding) : Report where
  filename := s.filename
  diagnostics := findings.filterMap (placed? rule s)
  failures := findings.filterMap (stray? rule s)

theorem placed?_eq_some {rule : Rule} {s : Source} (hs : s.Valid) {f : Finding} {d : Diagnostic}
    (h : placed? rule s f = some d) :
    d.rule = rule ∧ (d.offset : Int) = f.offset ∧
        s.translate d.offset = .ok ⟨d.line, d.column⟩ := by
  unfold placed? at h
  rcases Source.translate_cases hs f.offset with ⟨h0, _, p, hp, hcol⟩ | ⟨_, hout⟩
  · rw [hp] at h
    cases h
    have hoff : ((f.offset.toNat : Nat) : Int) = f.offset := Int.toNat_of_nonneg h0
    have hc : ((p.column.toNat : Nat) : Int) = p.column := Int.toNat_of_nonneg (by omega)
    refine ⟨rfl, hoff, ?_⟩
    simp only [hoff, hc, hp]
  · rw [hout] at h
    cases h

theorem stray?_eq_some {rule : Rule} {s : Source} (hs : s.Valid) {f : Finding} {g : Failure}
    (h : stray? rule s f = some g) :
    g.rule = some rule ∧
      g.message = s!"{(PositionError.outside f.offset s.text.size).message}: {f.message}" := by
  unfold stray? at h
  rcases Source.translate_cases hs f.offset with ⟨_, _, p, hp, _⟩ | ⟨_, hout⟩
  · rw [hp] at h
    cases h
  · rw [hout] at h
    cases h
    exact ⟨rfl, rfl⟩

/-- Findings inside the document leave no failure, and every diagnostic on them is inside. -/
theorem ofFindings_inside {s : Source} (hs : s.Valid) (rule : Rule) {findings : List Finding}
    (h : ∀ f ∈ findings, f.Inside s) :
    (ofFindings rule s findings).failures = [] ∧
      ∀ d ∈ (ofFindings rule s findings).diagnostics, d.offset ≤ s.text.size := by
  constructor
  · refine List.filterMap_eq_nil_iff.mpr ?_
    intro f hf
    rcases Source.translate_cases hs f.offset with ⟨_, _, p, hp, _⟩ | ⟨hout, _⟩
    · simp only [stray?, hp]
    · exact absurd (h f hf) hout
  · intro d hd
    obtain ⟨f, hf, hfd⟩ := List.mem_filterMap.mp hd
    obtain ⟨_, hoff, _⟩ := placed?_eq_some hs hfd
    have := (h f hf).2
    omega

/-- A report has a diagnostic at an offset inside the document where something was found. -/
theorem exists_diagnostic_iff {s : Source} (hs : s.Valid) (rule : Rule)
    (findings : List Finding) (p : Int) :
    (∃ d ∈ (ofFindings rule s findings).diagnostics, (d.offset : Int) = p) ↔
      ∃ f ∈ findings, f.Inside s ∧ f.offset = p := by
  constructor
  · rintro ⟨d, hd, rfl⟩
    obtain ⟨f, hf, hfd⟩ := List.mem_filterMap.mp hd
    obtain ⟨_, hoff, _⟩ := placed?_eq_some hs hfd
    refine ⟨f, hf, ?_, hoff.symm⟩
    rcases Source.translate_cases hs f.offset with ⟨h0, h1, _⟩ | ⟨_, hout⟩
    · exact ⟨h0, h1⟩
    · simp [placed?, hout] at hfd
  · rintro ⟨f, hf, hinside, rfl⟩
    rcases Source.translate_cases hs f.offset with ⟨h0, _, q, hq, _⟩ | ⟨hout, _⟩
    · refine ⟨_, List.mem_filterMap.mpr ⟨f, hf, by rw [placed?, hq]⟩, ?_⟩
      exact Int.toNat_of_nonneg h0
    · exact absurd hinside hout

/-! ## Adding -/

theorem merge_assoc (a b c : Report) : (a.merge b).merge c = a.merge (b.merge c) := by
  simp only [merge, List.append_assoc]

theorem merge_ofFindings_nil (r : Report) (rule : Rule) (s : Source) :
    r.merge (ofFindings rule s []) = r := by
  simp only [merge, ofFindings, List.filterMap_nil, List.append_nil]

theorem ofFindings_append (rule : Rule) (s : Source) (a b : List Finding) :
    ofFindings rule s (a ++ b) = (ofFindings rule s a).merge (ofFindings rule s b) := by
  simp only [merge, ofFindings, List.filterMap_append]

/-- Adding one finding to a report on its document always succeeds. -/
theorem add_eq {s : Source} (hs : s.Valid) {r : Report} (hr : r.filename = s.filename) (rule : Rule)
    (f : Finding) :
    r.add rule s f.offset f.message = .ok (r.merge (ofFindings rule s [f])) := by
  rcases Source.translate_cases hs f.offset with ⟨_, _, p, hp, hcol⟩ | ⟨_, hout⟩
  · simp [add, addOf, hp, addAt, hcol, merge, ofFindings, placed?, stray?]
  · simp [add, addOf, hout, fail, merge, ofFindings, placed?, stray?, hr]

theorem foldlM_add_eq {s : Source} (hs : s.Valid) (rule : Rule) (findings : List Finding) :
    ∀ r : Report, r.filename = s.filename →
      findings.foldlM (fun report f => report.add rule s f.offset f.message) r =
        .ok (r.merge (ofFindings rule s findings)) := by
  induction findings with
  | nil => intro r _; rw [merge_ofFindings_nil]; rfl
  | cons f rest ih =>
    intro r hr
    rw [List.foldlM_cons, add_eq hs hr]
    refine (ih (r.merge (ofFindings rule s [f])) hr).trans ?_
    rw [merge_assoc, ← ofFindings_append, List.singleton_append]

/-! ## Sorting -/

theorem positionLe_trans (a b c : Diagnostic) (hab : positionLe a b = true)
    (hbc : positionLe b c = true) : positionLe a c = true := by
  simp only [positionLe, Bool.or_eq_true, Bool.and_eq_true, decide_eq_true_eq, beq_iff_eq] at *
  omega

theorem positionLe_total (a b : Diagnostic) : (positionLe a b || positionLe b a) = true := by
  simp only [positionLe, Bool.or_eq_true, Bool.and_eq_true, decide_eq_true_eq, beq_iff_eq]
  omega

/-- Every diagnostic stands at the position of its offset. -/
def InPlace (s : Source) (r : Report) : Prop :=
  ∀ d ∈ r.diagnostics, s.translate d.offset = .ok ⟨d.line, d.column⟩

theorem inPlace_ofFindings {s : Source} (hs : s.Valid) (rule : Rule) (findings : List Finding) :
    (ofFindings rule s findings).InPlace s := by
  intro d hd
  obtain ⟨f, _, hf⟩ := List.mem_filterMap.mp hd
  exact (placed?_eq_some hs hf).2.2

theorem InPlace.merge {s : Source} {a b : Report} (ha : a.InPlace s) (hb : b.InPlace s) :
    (a.merge b).InPlace s := by
  intro d hd
  rcases List.mem_append.mp hd with hd | hd
  · exact ha d hd
  · exact hb d hd

/-- At positions of their offsets, diagnostics are ordered by offset. -/
theorem positionLe_iff {s : Source} (hs : s.Valid) {a b : Diagnostic}
    (ha : s.translate a.offset = .ok ⟨a.line, a.column⟩)
    (hb : s.translate b.offset = .ok ⟨b.line, b.column⟩) :
    positionLe a b = true ↔ a.offset ≤ b.offset := by
  simp only [positionLe, Bool.or_eq_true, Bool.and_eq_true, decide_eq_true_eq, beq_iff_eq]
  constructor
  · intro h
    by_contra hlt
    have hlt : (b.offset : Int) < a.offset := by omega
    have := Source.translate_before hs hlt hb ha
    simp only [Position.Before] at this
    omega
  · intro h
    rcases Nat.lt_or_eq_of_le h with hlt | heq
    · have := Source.translate_before hs (Int.ofNat_lt.mpr hlt) ha hb
      simp only [Position.Before] at this
      omega
    · rw [heq, hb] at ha
      simp only [Except.ok.injEq, Position.mk.injEq] at ha
      omega

/-- Sorted diagnostics of one document are in order of offset. -/
theorem InPlace.sort_pairwise {s : Source} (hs : s.Valid) {r : Report} (hr : r.InPlace s) :
    r.sort.diagnostics.Pairwise (·.offset ≤ ·.offset) := by
  have hle := List.pairwise_mergeSort positionLe_trans positionLe_total r.diagnostics
  refine hle.imp_of_mem ?_
  intro a b ha hb hab
  exact (positionLe_iff hs (hr a (List.mem_mergeSort.mp ha)) (hr b (List.mem_mergeSort.mp hb))).mp
    hab

/-- Reports with the same diagnostics in another order are sorted alike, up to what stands at one
offset. -/
theorem InPlace.sort_offsets_eq {s : Source} (hs : s.Valid) {a b : Report} (ha : a.InPlace s)
    (hb : b.InPlace s) (h : a.diagnostics.Perm b.diagnostics) :
    a.sort.diagnostics.Perm b.sort.diagnostics ∧
      a.sort.diagnostics.map (·.offset) = b.sort.diagnostics.map (·.offset) := by
  have hperm : a.sort.diagnostics.Perm b.sort.diagnostics :=
    (List.mergeSort_perm a.diagnostics positionLe).trans
      (h.trans (List.mergeSort_perm b.diagnostics positionLe).symm)
  refine ⟨hperm, ?_⟩
  refine List.Perm.eq_of_pairwise ?_ (List.pairwise_map.mpr (ha.sort_pairwise hs))
    (List.pairwise_map.mpr (hb.sort_pairwise hs)) (hperm.map _)
  intro x y _ _ hxy hyx
  exact Nat.le_antisymm hxy hyx

end Report

/-- The report a ledger lets through is that of the findings at which the rule is active. -/
theorem Ledger.report_eq {s : Source} (hs : s.Valid) (l : Ledger) (rule : Rule)
    (findings : List Finding) :
    l.report rule s findings =
      .ok (Report.ofFindings rule s (findings.filter fun f => l.isActive rule f.offset)) := by
  unfold Ledger.report
  rw [Report.foldlM_add_eq hs rule _ _ rfl]
  rfl

namespace Directive

/-- What is reported about names that no rule goes by. -/
def unknownFindings (s : Source) (reportUnknown : Bool) : List Finding :=
  if reportUnknown then
    (inSource s).flatMap fun d => d.unknownNames.map fun name =>
      ⟨d.position, s!"Unknown NOLINT error category: '{name}'"⟩
  else []

theorem unknownReport_eq_foldlM (s : Source) (reportUnknown : Bool) :
    unknownReport s reportUnknown =
      (unknownFindings s reportUnknown).foldlM (fun report f =>
        report.add .noLint s f.offset f.message)
        (Report.forSource s) := by
  have hmap : unknownFindings s reportUnknown =
      (if reportUnknown then
        (inSource s).flatMap fun d => d.unknownNames.map fun name => (d.position, name)
      else []).map fun f => ⟨f.1, s!"Unknown NOLINT error category: '{f.2}'"⟩ := by
    unfold unknownFindings
    split
    · rw [List.map_flatMap]
      simp only [List.map_map, Function.comp_def]
    · rfl
  rw [hmap, List.foldlM_map]
  rfl

/-- The report on unknown names is never refused. -/
theorem unknownReport_eq {s : Source} (hs : s.Valid) (reportUnknown : Bool) :
    unknownReport s reportUnknown =
      .ok (Report.ofFindings .noLint s (unknownFindings s reportUnknown)) := by
  rw [unknownReport_eq_foldlM]
  exact Report.foldlM_add_eq hs .noLint _ (Report.forSource s) rfl

theorem unknownFindings_inside {s : Source} {reportUnknown : Bool} {f : Finding}
    (h : f ∈ unknownFindings s reportUnknown) : f.Inside s := by
  unfold unknownFindings at h
  split at h
  · obtain ⟨d, hd, hf⟩ := List.mem_flatMap.mp h
    obtain ⟨name, _, rfl⟩ := List.mem_map.mp hf
    have := inSource_position_le hd
    exact ⟨Int.natCast_nonneg _, by simp only; omega⟩
  · cases h

end Directive

end SqlStyle
