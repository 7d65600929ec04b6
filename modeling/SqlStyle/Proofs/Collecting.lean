import Mathlib.Data.List.Perm.Basic
import Mathlib.Logic.Function.Basic
import SqlStyle.Proofs.Reports

/-! # Reports under any calls

Several reports are filled by calls in any order: an issue of some document is added, a failure
recorded, one report merged into another or sorted. Beside the run goes an account of which issues
each report was given, be it directly or by a merge (`heldAfter`). One call keeps the account true
(`perform_holds`), so after any run the diagnostics of a report are those issues that lie inside
their own documents, each at the position that its own document gives it (`performAll_holds`). -/

namespace SqlStyle.Report

/-- An issue as it is brought to a report, with the document it is about. -/
structure Issue where
  rule : Rule
  source : Source
  offset : Int
  message : String

namespace Issue

/-- The offset lies in the document; its end counts. -/
def isInside (i : Issue) : Bool := decide (0 ≤ i.offset ∧ i.offset ≤ i.source.text.size)

/-- The diagnostic is the one on the issue, at the position of the offset in the issue's own
document. -/
structure Places (i : Issue) (d : Diagnostic) : Prop where
  rule : d.rule = i.rule
  offset : (d.offset : Int) = i.offset
  position : i.source.translate i.offset = .ok ⟨d.line, d.column⟩
  message : d.message = i.message
  filename : d.filename = i.source.filename

/-- Adds the issue to a report. -/
def addTo (i : Issue) (r : Report) : Except Fault Report := r.add i.rule i.source i.offset i.message

end Issue

/-- A call on one of `n` reports. -/
inductive Call (n : Nat) where
  | add (on : Fin n) (issue : Issue)
  | fail (on : Fin n) (message : String) (rule : Option Rule)
  /-- Appends what the other report has. -/
  | merge (on other : Fin n)
  | sort (on : Fin n)

namespace Call

variable {n : Nat}

/-- The reports after a call. -/
def perform (reports : Fin n → Report) : Call n → Except Fault (Fin n → Report)
  | add on issue => (issue.addTo (reports on)).map (Function.update reports on)
  | fail on message rule => .ok (Function.update reports on ((reports on).fail message rule))
  | merge on other => .ok (Function.update reports on ((reports on).merge (reports other)))
  | sort on => .ok (Function.update reports on (reports on).sort)

/-- The issues that each report was given after a call. A merge brings along those of the other
report. -/
def hold (held : Fin n → List Issue) : Call n → Fin n → List Issue
  | add on issue => Function.update held on (held on ++ [issue])
  | fail _ _ _ => held
  | merge on other => Function.update held on (held on ++ held other)
  | sort _ => held

end Call

/-- The reports after calls, one after the other. -/
def performAll {n : Nat} (reports : Fin n → Report) (calls : List (Call n)) :
    Except Fault (Fin n → Report) :=
  calls.foldlM Call.perform reports

/-- The issues that each report was given after calls on empty reports. -/
def heldAfter {n : Nat} (calls : List (Call n)) : Fin n → List Issue :=
  calls.foldl Call.hold fun _ => []

/-- The diagnostics are those on the issues inside their documents, one for each, in some order. -/
def Holds (r : Report) (issues : List Issue) : Prop :=
  ∃ origins : List Issue, origins.Perm (issues.filter Issue.isInside) ∧
    List.Forall₂ Issue.Places origins r.diagnostics

/-- Adding the issue makes one entry: a diagnostic if it lies inside its document, a failure that
carries its rule if not. -/
def AddsOne (r : Report) (issue : Issue) : Prop :=
  (issue.isInside = true ∧ ∃ d, issue.Places d ∧
      issue.addTo r = .ok { r with diagnostics := r.diagnostics ++ [d] }) ∨
    (issue.isInside = false ∧ ∃ g : Failure, g.rule = some issue.rule ∧
      issue.addTo r = .ok { r with failures := r.failures ++ [g] })

theorem addsOne (r : Report) {issue : Issue} (hs : issue.source.Valid) : r.AddsOne issue := by
  rcases Source.translate_cases hs issue.offset with ⟨h0, h1, p, hp, hcol⟩ | ⟨hout, herr⟩
  · have hc : ((p.column.toNat : Nat) : Int) = p.column := Int.toNat_of_nonneg (by omega)
    refine .inl ⟨decide_eq_true ⟨h0, h1⟩, ⟨issue.rule, issue.offset.toNat, p.line, p.column.toNat,
      issue.message, issue.source.filename⟩, ?_, ?_⟩
    · exact ⟨rfl, Int.toNat_of_nonneg h0, by rw [hp, hc], rfl, rfl⟩
    · rw [Issue.addTo, add, addOf, hp]
      exact if_pos hcol
  · let place := (PositionError.outside issue.offset issue.source.text.size).message
    refine .inr ⟨decide_eq_false hout, ⟨s!"{place}: {issue.message}", some issue.rule, r.filename⟩,
      rfl, ?_⟩
    rw [Issue.addTo, add, addOf, herr]
    rfl

/-! ## What a call keeps -/

theorem holds_nil {r : Report} (h : r.diagnostics = []) : r.Holds [] :=
  ⟨[], .refl [], h ▸ .nil⟩

theorem Holds.append {a b : Report} {xs ys : List Issue} (ha : a.Holds xs) (hb : b.Holds ys) :
    (a.merge b).Holds (xs ++ ys) := by
  obtain ⟨as, hpa, hfa⟩ := ha
  obtain ⟨bs, hpb, hfb⟩ := hb
  refine ⟨as ++ bs, ?_, List.rel_append hfa hfb⟩
  rw [List.filter_append]
  exact hpa.append hpb

theorem Holds.sort {r : Report} {xs : List Issue} (h : r.Holds xs) : r.sort.Holds xs := by
  obtain ⟨origins, hp, hf⟩ := h
  -- the issues move along with their diagnostics
  obtain ⟨moved, hmoved, hperm⟩ :=
    List.perm_comp_forall₂ (List.mergeSort_perm r.diagnostics positionLe) hf.flip
  exact ⟨moved, hperm.trans hp, hmoved.flip⟩

theorem Holds.add {r : Report} {xs : List Issue} (h : r.Holds xs) {issue : Issue}
    (hs : issue.source.Valid) :
    ∃ next, issue.addTo r = .ok next ∧ next.Holds (xs ++ [issue]) := by
  rcases r.addsOne hs with ⟨hin, d, hd, hadd⟩ | ⟨hout, g, _, hadd⟩
  · refine ⟨_, hadd, h.append (b := { diagnostics := [d] }) ⟨[issue], ?_, .cons hd .nil⟩⟩
    rw [List.filter_cons_of_pos hin, List.filter_nil]
  · obtain ⟨origins, hp, hf⟩ := h
    refine ⟨_, hadd, origins, ?_, hf⟩
    rwa [List.filter_append, List.filter_cons_of_neg (by simp [hout]), List.filter_nil,
      List.append_nil]

theorem holds_update {n : Nat} {reports : Fin n → Report} {held : Fin n → List Issue}
    (h : ∀ i, (reports i).Holds (held i)) (on : Fin n) {r : Report} {issues : List Issue}
    (hr : r.Holds issues) :
    ∀ i, (Function.update reports on r i).Holds (Function.update held on issues i) := by
  intro i
  by_cases hi : i = on
  · subst hi
    rwa [Function.update_self, Function.update_self]
  · rw [Function.update_of_ne hi, Function.update_of_ne hi]
    exact h i

/-- A call keeps the account of every report true. -/
theorem perform_holds {n : Nat} {reports : Fin n → Report} {held : Fin n → List Issue}
    (h : ∀ i, (reports i).Holds (held i)) (call : Call n)
    (hvalid : ∀ on issue, call = .add on issue → issue.source.Valid) :
    ∃ next, call.perform reports = .ok next ∧ ∀ i, (next i).Holds (call.hold held i) := by
  cases call with
  | add on issue =>
    obtain ⟨r, hr, hholds⟩ := (h on).add (hvalid on issue rfl)
    exact ⟨Function.update reports on r, by rw [Call.perform, hr]; rfl, holds_update h on hholds⟩
  | fail on message rule =>
    have hheld := holds_update h on (r := (reports on).fail message rule) (h on)
    rw [Function.update_eq_self] at hheld
    exact ⟨_, rfl, hheld⟩
  | merge on other => exact ⟨_, rfl, holds_update h on ((h on).append (h other))⟩
  | sort on =>
    have hheld := holds_update h on (h on).sort
    rw [Function.update_eq_self] at hheld
    exact ⟨_, rfl, hheld⟩

theorem performAll_holds {n : Nat} (calls : List (Call n)) :
    ∀ {reports : Fin n → Report} {held : Fin n → List Issue}, (∀ i, (reports i).Holds (held i)) →
      (∀ on issue, .add on issue ∈ calls → issue.source.Valid) →
      ∃ final, performAll reports calls = .ok final ∧
          ∀ i, (final i).Holds (calls.foldl Call.hold held i) := by
  induction calls with
  | nil => intro reports held h _; exact ⟨reports, rfl, h⟩
  | cons call rest ih =>
    intro reports held h hvalid
    obtain ⟨next, hnext, hholds⟩ := perform_holds h call fun on issue hc =>
      hvalid on issue (hc ▸ List.mem_cons_self)
    obtain ⟨final, hfinal, hall⟩ := ih hholds fun on issue hm =>
      hvalid on issue (List.mem_cons_of_mem _ hm)
    refine ⟨final, ?_, hall⟩
    rw [performAll, List.foldlM_cons, hnext]
    exact hfinal

/-! ## Sorting and merging -/

theorem isStableSort_sort (r : Report) : IsStableSort positionLe r.diagnostics r.sort.diagnostics :=
  isStableSort_mergeSort positionLe_trans positionLe_total r.diagnostics

theorem sort_sort (r : Report) : r.sort.sort = r.sort := by
  have h := List.mergeSort_of_pairwise r.isStableSort_sort.ordered
  exact congrArg (fun diagnostics => { r with diagnostics }) h

theorem sort_merge_sort (a b : Report) : (a.sort.merge b.sort).sort = (a.merge b).sort := by
  unfold sort merge
  rw [mergeSort_append_mergeSort positionLe_trans positionLe_total]

/-- **Reports keep what they are given.** Let any calls be made on any number of empty reports,
where the documents that issues are about have tabs of a positive width, if any. No call is refused,
and each report ends with one diagnostic for every issue inside its document that reached it,
directly or by merges, at the position of the offset in the very document it was added with. Adding
makes one entry: a diagnostic, or a failure that carries the rule if the offset is outside. Sorting
is stable, by line and column, moves nothing else, and a second time changes nothing; and what is
sorted after a merge need not be sorted before. -/
theorem calls_keep_positions {n : Nat} (sources : Fin n → Source) (calls : List (Call n))
    (hvalid : ∀ on issue, .add on issue ∈ calls → issue.source.Valid) :
    (∃ final, performAll (fun i => forSource (sources i)) calls = .ok final ∧
      ∀ i, (final i).Holds (heldAfter calls i)) ∧
    (∀ (r : Report) (issue : Issue), issue.source.Valid → r.AddsOne issue) ∧
    (∀ r : Report, IsStableSort positionLe r.diagnostics r.sort.diagnostics ∧
      r.sort = { r with diagnostics := r.sort.diagnostics } ∧ r.sort.sort = r.sort) ∧
    ∀ a b : Report, (a.merge b).sort = (a.sort.merge b.sort).sort := by
  refine ⟨?_, fun r _ hs => r.addsOne hs, fun r => ⟨r.isStableSort_sort, rfl, r.sort_sort⟩,
    fun a b => (sort_merge_sort a b).symm⟩
  exact performAll_holds calls (fun i => holds_nil rfl) hvalid

/-- Issues of two documents meet in one report, which is then merged with itself; one of them lies
outside. -/
theorem calls_keep_positions_doubled :
    let plain : Source := { text := #['a', '\n', 'b'], filename := some "a.sql" }
    let tabbed : Source := { text := #['\t', 'c'], tabSize := some 4 }
    let late : Issue := ⟨.join, plain, 2, "late"⟩
    let early : Issue := ⟨.imports, tabbed, 1, "early"⟩
    let outside : Issue := ⟨.join, tabbed, 9, "outside"⟩
    let calls : List (Call 2) := [.add 0 late, .add 1 early, .add 1 outside, .fail 1 "stuck" none,
      .merge 0 1, .merge 0 0, .sort 0]
    (∀ on issue, .add on issue ∈ calls → issue.source.Valid) ∧
    ∃ final, performAll (fun _ => forSource plain) calls = .ok final ∧
      (final 0).Holds [late, early, outside, late, early, outside] ∧
          (final 1).Holds [early, outside] := by
  intro plain tabbed late early outside calls
  have hplain : plain.Valid := fun width h => by cases h
  have htabbed : tabbed.Valid := fun width h => by cases h; decide
  have hvalid : ∀ on issue, .add on issue ∈ calls → issue.source.Valid := by
    intro on issue h
    simp only [calls, List.mem_cons, Call.add.injEq, reduceCtorEq, List.not_mem_nil, or_false] at h
    rcases h with ⟨-, rfl⟩ | ⟨-, rfl⟩ | ⟨-, rfl⟩
    · exact hplain
    · exact htabbed
    · exact htabbed
  obtain ⟨final, hfinal, hholds⟩ := (calls_keep_positions (fun _ => plain) calls hvalid).1
  exact ⟨hvalid, final, hfinal, hholds 0, hholds 1⟩

end SqlStyle.Report
