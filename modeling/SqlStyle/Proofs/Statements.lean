import Mathlib.Data.List.Chain
import Mathlib.Data.List.Forall2
import SqlStyle.Proofs.Offsets.Grammar

/-! # The stream of statements

A document is cut at its semicolons, and the grammar is asked about one statement after the other.
The cut is specified on the lexemes alone: semicolons, then a run of other lexemes that stops at a
semicolon or at the end, and so on (`Runs`). Exactly one list of runs fits, and it is the one that
is parsed. The k-th run gets the k-th answer. The runs that are answered with expressions become
statements, in order, until one is not; that one decides how the stream ends (`Ending`). -/

namespace SqlStyle.Grammar

/-- The maximal non-empty runs of lexemes without a semicolon, in order. -/
inductive Runs : List Lexeme → List (List Lexeme) → Prop
  | none {gap : List Lexeme} : (∀ l ∈ gap, l.isSemicolon = true) → Runs gap []
  | run {gap run rest : List Lexeme} {runs : List (List Lexeme)} :
      (∀ l ∈ gap, l.isSemicolon = true) → run ≠ [] → (∀ l ∈ run, l.isSemicolon = false) →
      (∀ l ∈ rest.head?, l.isSemicolon = true) → Runs rest runs →
        Runs (gap ++ run ++ rest) (run :: runs)

/-- Lexemes one after the other, each with at least one character. -/
structure Consecutive (lexemes : List Lexeme) : Prop where
  range : ∀ l ∈ lexemes, 0 ≤ l.start ∧ l.start ≤ l.last
  follows : lexemes.IsChain fun a b => a.last < b.start

/-- Each run with the grammar's answer to it. A run without one has no expressions. -/
def answered (runs : List (List Lexeme)) (results : List Result) : List (List Lexeme × Result) :=
  runs.mapIdx fun k run => (run, results[k]?.getD (.expressions []))

/-- The statement of a run: from its first to its last lexeme, with the tree of the answer. -/
structure StatementOf (run : List Lexeme × Result) (u : Statement) : Prop where
  start : run.1.head?.map Lexeme.start = some u.start
  stop : run.1.getLast?.map (·.last + 1) = some u.stop
  root : ∃ es, run.2 = .expressions es ∧ rootOf run.1 es = .ok u.root

/-- The grammar refused the statement. -/
def Result.Refuses : Result → Prop
  | .syntaxError _ _ => True
  | .failure _ => True
  | .expressions _ => False
  | .raised _ => False

/-- The error is one of this run: it starts where the run does, and blames one of its lexemes. -/
structure ErrorIn (run : List Lexeme) (e : ParseError) : Prop where
  statementStart : run.head?.map Lexeme.start = some e.statementStart
  position : ∃ l ∈ run, l.start = e.position

/-- How the stream ends with what is left: with nothing left, with the error of a run that is
refused, or with a fault where the answer is no proper one. -/
inductive Ending : List (List Lexeme × Result) → Option ParseStop → Prop
  | finished : Ending [] none
  | refused {run : List Lexeme} {result : Result} {later : List (List Lexeme × Result)}
    {e : ParseError} :
      result.Refuses → ErrorIn run e → Ending ((run, result) :: later) (some (.failed e))
  | gaveUp {run : List Lexeme} {result : Result} {later : List (List Lexeme × Result)}
    {fault : Fault} :
      ¬ result.Proper → Ending ((run, result) :: later) (some (.gaveUp fault))

/-! ## Cutting at semicolons -/

namespace Runs

theorem cons_semicolon {l : Lexeme} (hl : l.isSemicolon = true) {lexemes : List Lexeme}
    {runs : List (List Lexeme)} (h : Runs lexemes runs) : Runs (l :: lexemes) runs := by
  cases h with
  | none hgap => exact .none (List.forall_mem_cons.mpr ⟨hl, hgap⟩)
  | run hgap hne hrun hhead hrest =>
    rw [List.append_assoc, ← List.cons_append, ← List.append_assoc]
    exact .run (List.forall_mem_cons.mpr ⟨hl, hgap⟩) hne hrun hhead hrest

theorem exists_cons {l : Lexeme} (hl : l.isSemicolon = false) {lexemes : List Lexeme}
    {runs : List (List Lexeme)} (h : Runs lexemes runs) : ∃ others, Runs (l :: lexemes) others := by
  have hsingle : ∀ m ∈ [l], m.isSemicolon = false := by simpa using hl
  cases h with
  | none hgap =>
    exact ⟨_, @run [] [l] _ _ (by simp) (by simp) hsingle
      (fun m hm => hgap m (List.mem_of_mem_head? hm)) (.none hgap)⟩
  | @run gap first rest runs hgap hne hrun hhead hrest =>
    cases gap with
    | nil =>
      -- the lexeme joins the run that follows
      exact ⟨_, @run [] (l :: first) _ _ (by simp) (by simp)
        (List.forall_mem_cons.mpr ⟨hl, hrun⟩) hhead hrest⟩
    | cons semicolon gap =>
      refine ⟨_, @run [] [l] _ _ (by simp) (by simp) hsingle ?_ (.run hgap hne hrun hhead hrest)⟩
      intro m hm
      obtain rfl : semicolon = m := by simpa using hm
      exact hgap semicolon List.mem_cons_self

theorem exists_runs (lexemes : List Lexeme) : ∃ runs, Runs lexemes runs := by
  induction lexemes with
  | nil => exact ⟨[], .none (by simp)⟩
  | cons l rest ih =>
    obtain ⟨runs, h⟩ := ih
    cases hl : l.isSemicolon with
    | true => exact ⟨runs, h.cons_semicolon hl⟩
    | false => exact h.exists_cons hl

theorem flatten_eq {lexemes : List Lexeme} {runs : List (List Lexeme)} (h : Runs lexemes runs) :
    runs.flatten = lexemes.filter (!·.isSemicolon) := by
  induction h with
  | none hgap => exact (List.filter_eq_nil_iff.mpr (by simpa using hgap)).symm
  | @run gap run rest runs hgap _ hrun _ _ ih =>
    have hg : gap.filter (!·.isSemicolon) = [] := by simpa [List.filter_eq_nil_iff] using hgap
    have hr : run.filter (!·.isSemicolon) = run := by simpa [List.filter_eq_self] using hrun
    rw [List.filter_append, List.filter_append, hg, hr, List.flatten_cons, ih, List.nil_append]

theorem ne_nil {lexemes : List Lexeme} {runs : List (List Lexeme)} (h : Runs lexemes runs) :
    ∀ run ∈ runs, run ≠ [] := by
  induction h with
  | none => simp
  | run _ hne _ _ _ ih => exact List.forall_mem_cons.mpr ⟨hne, ih⟩

end Runs

theorem splitRuns_append {run : List Lexeme} (h : ∀ l ∈ run, l.isSemicolon = false)
    (rest : List Lexeme) :
    splitRuns (run ++ rest) = (run ++ (splitRuns rest).1, (splitRuns rest).2) := by
  induction run with
  | nil => rfl
  | cons l run ih =>
    obtain ⟨hl, hrun⟩ := List.forall_mem_cons.mp h
    simp [splitRuns, ih hrun, hl]

theorem statementRuns_gap {gap : List Lexeme} (h : ∀ l ∈ gap, l.isSemicolon = true)
    (rest : List Lexeme) :
    statementRuns (gap ++ rest) = statementRuns rest := by
  induction gap with
  | nil => rfl
  | cons l gap ih =>
    obtain ⟨hl, hgap⟩ := List.forall_mem_cons.mp h
    rw [← ih hgap]
    simp [statementRuns, splitRuns, hl]

theorem statementRuns_run {run rest : List Lexeme} (hne : run ≠ [])
    (hrun : ∀ l ∈ run, l.isSemicolon = false) (hhead : ∀ l ∈ rest.head?, l.isSemicolon = true) :
    statementRuns (run ++ rest) = run :: statementRuns rest := by
  have hfirst : (splitRuns rest).1 = [] := by
    cases rest with
    | nil => rfl
    | cons l rest => simp [splitRuns, hhead l rfl]
  simp [statementRuns, splitRuns_append hrun, hfirst, hne]

/-- The runs that are parsed are the only ones that fit. -/
theorem Runs.eq_statementRuns {lexemes : List Lexeme} {runs : List (List Lexeme)}
    (h : Runs lexemes runs) :
    runs = statementRuns lexemes := by
  induction h with
  | @none gap hgap =>
    have := statementRuns_gap hgap []
    rw [List.append_nil] at this
    exact this.symm
  | run hgap hne hrun hhead _ ih =>
    rw [List.append_assoc, statementRuns_gap hgap, statementRuns_run hne hrun hhead, ← ih]

theorem runs_statementRuns (lexemes : List Lexeme) : Runs lexemes (statementRuns lexemes) := by
  obtain ⟨runs, h⟩ := Runs.exists_runs lexemes
  exact h.eq_statementRuns ▸ h

/-! ## One run, and all of them -/

theorem rootOf_ok {es : List (Option Expr)} (h : ∀ e, some e ∈ es → e.Readable)
    (run : List Lexeme) :
    ∃ root, rootOf run es = .ok root := by
  unfold rootOf
  split
  · rename_i e he
    obtain ⟨o, ho, rfl⟩ := List.exists_of_findSome?_eq_some he
    exact ⟨_, by rw [Expr.toNode, (h e ho).fault?_eq_none]⟩
  · exact ⟨_, rfl⟩

/-- All that can come of a run: its statement, or the end of the stream. -/
theorem parseRun_outcome {run : List Lexeme} (hne : run ≠ []) (result : Result) :
    (∃ u, parseRun run result = .ok u ∧ StatementOf (run, result) u) ∨
      ∃ stop, parseRun run result = .error stop ∧
          ∀ later, Ending ((run, result) :: later) (some stop) := by
  obtain ⟨first, rest, rfl⟩ := List.exists_cons_of_ne_nil hne
  cases result with
  | expressions es =>
    cases hroot : rootOf (first :: rest) es with
    | ok root =>
      refine .inl ⟨_, by simp only [parseRun, hroot]; rfl, rfl, ?_, es, rfl, hroot⟩
      simp [runStop, List.getLast?_cons, Lexeme.stop]
    | error fault =>
      refine .inr ⟨.gaveUp fault, by simp only [parseRun, hroot], fun later => .gaveUp ?_⟩
      intro hproper
      obtain ⟨root, hok⟩ := rootOf_ok hproper (first :: rest)
      rw [hroot] at hok
      cases hok
  | syntaxError text details =>
    exact .inr ⟨_, rfl, fun later => .refused trivial ⟨rfl, exists_blamed hne text details⟩⟩
  | failure text =>
    exact .inr ⟨_, rfl, fun later => .refused trivial ⟨rfl, first, List.mem_cons_self, rfl⟩⟩
  | raised text => exact .inr ⟨_, rfl, fun later => .gaveUp id⟩

theorem answered_cons (run : List Lexeme) (runs : List (List Lexeme)) (results : List Result) :
    answered (run :: runs) results =
      (run, results.head?.getD (.expressions [])) :: answered runs results.tail := by
  cases results <;> simp [answered, List.mapIdx_cons]

/-- The stream takes statements off the front of the answered runs, and what is left decides its
end. -/
theorem parseRuns_split (runs : List (List Lexeme)) (hne : ∀ run ∈ runs, run ≠ []) :
    ∀ results : List Result, ∃ accepted rest, answered runs results = accepted ++ rest ∧
      List.Forall₂ StatementOf accepted (parseRuns runs results).statements ∧
      Ending rest (parseRuns runs results).stop := by
  induction runs with
  | nil => intro results; exact ⟨[], [], rfl, .nil, .finished⟩
  | cons run runs ih =>
    intro results
    obtain ⟨hrun, hruns⟩ := List.forall_mem_cons.mp hne
    rw [answered_cons]
    obtain ⟨u, hok, hu⟩ | ⟨stop, herror, hend⟩ :=
      parseRun_outcome hrun (results.head?.getD (.expressions []))
    · obtain ⟨accepted, rest, hsplit, hunits, hend⟩ := ih hruns results.tail
      simp only [parseRuns, hok, hsplit]
      exact ⟨_ :: accepted, rest, rfl, .cons hu hunits, hend⟩
    · simp only [parseRuns, herror]
      exact ⟨[], _, rfl, .nil, hend _⟩

/-! ## Ranges -/

theorem Consecutive.pairwise {lexemes : List Lexeme} (h : Consecutive lexemes) :
    lexemes.Pairwise fun a b => a.last < b.start := by
  obtain ⟨hrange, hfollows⟩ := h
  induction lexemes with
  | nil => exact .nil
  | cons a rest ih =>
    obtain ⟨-, hrest⟩ := List.forall_mem_cons.mp hrange
    have hlater := ih hrest hfollows.tail
    refine List.pairwise_cons.mpr ⟨?_, hlater⟩
    cases rest with
    | nil => simp
    | cons b rest =>
      have hab := (List.isChain_cons_cons.mp hfollows).1
      have hb := (hrest b List.mem_cons_self).2
      refine List.forall_mem_cons.mpr ⟨hab, ?_⟩
      intro c hc
      have := (List.pairwise_cons.mp hlater).1 c hc
      omega

section

variable {run other : List Lexeme × Result} {u v : Statement} (hu : StatementOf run u)

include hu

theorem StatementOf.range_of_pairwise (hrange : ∀ l ∈ run.1, 0 ≤ l.start ∧ l.start ≤ l.last)
    (hrun : run.1.Pairwise fun a b => a.last < b.start) : 0 ≤ u.start ∧ u.start < u.stop := by
  obtain ⟨first, hfirst, hstart⟩ := Option.map_eq_some_iff.mp hu.start
  obtain ⟨last, hlast, hstop⟩ := Option.map_eq_some_iff.mp hu.stop
  obtain ⟨rest, hrest⟩ := List.head?_eq_some_iff.mp hfirst
  have hf := hrange first (List.mem_of_mem_head? hfirst)
  have hl := hrange last (List.mem_of_getLast? hlast)
  rw [hrest] at hrun hlast
  rcases List.mem_cons.mp (List.mem_of_getLast? hlast) with rfl | hm
  · omega
  · have := (List.pairwise_cons.mp hrun).1 last hm
    omega

theorem StatementOf.stop_le_start (hv : StatementOf other v)
    (h : ∀ a ∈ run.1, ∀ b ∈ other.1, a.last < b.start) : u.stop ≤ v.start := by
  obtain ⟨last, hlast, hstop⟩ := Option.map_eq_some_iff.mp hu.stop
  obtain ⟨first, hfirst, hstart⟩ := Option.map_eq_some_iff.mp hv.start
  have := h last (List.mem_of_getLast? hlast) first (List.mem_of_mem_head? hfirst)
  omega

end

theorem exists_run_of_mem {accepted : List (List Lexeme × Result)} {units : List Statement}
    (h : List.Forall₂ StatementOf accepted units) :
    ∀ u ∈ units, ∃ run ∈ accepted, StatementOf run u := by
  induction h with
  | nil => simp
  | cons hu _ ih =>
    refine List.forall_mem_cons.mpr ⟨⟨_, List.mem_cons_self, hu⟩, ?_⟩
    intro v hv
    obtain ⟨run, hm, hrun⟩ := ih v hv
    exact ⟨run, List.mem_cons_of_mem _ hm, hrun⟩

theorem statements_pairwise {accepted : List (List Lexeme × Result)} {units : List Statement}
    (h : List.Forall₂ StatementOf accepted units)
    (hruns : accepted.Pairwise fun run other => ∀ a ∈ run.1, ∀ b ∈ other.1, a.last < b.start) :
    units.Pairwise (·.stop ≤ ·.start) := by
  induction h with
  | nil => exact .nil
  | cons hu hrest ih =>
    obtain ⟨hfirst, hlater⟩ := List.pairwise_cons.mp hruns
    refine List.pairwise_cons.mpr ⟨?_, ih hlater⟩
    intro v hv
    obtain ⟨other, hm, hother⟩ := exists_run_of_mem hrest v hv
    exact hu.stop_le_start hother (hfirst other hm)

theorem answered_map_fst (runs : List (List Lexeme)) :
    ∀ results : List Result, (answered runs results).map Prod.fst = runs := by
  induction runs with
  | nil => intro results; rfl
  | cons run runs ih => intro results; rw [answered_cons, List.map_cons, ih]

theorem answered_proper {results : List Result} (h : ∀ result ∈ results, result.Proper)
    (runs : List (List Lexeme)) : ∀ run ∈ answered runs results, run.2.Proper := by
  intro run hm
  obtain ⟨k, _, rfl⟩ := List.mem_mapIdx.mp hm
  cases hk : results[k]? with
  | none => exact fun e he => by cases he
  | some result => exact h result (List.mem_of_getElem? hk)

/-! ## The stream -/

/-- What parsing makes of lexemes that are cut into runs. -/
structure StatementStream (lexemes : List Lexeme) (results : List Result)
    (runs : List (List Lexeme)) (p : Parse) : Prop where
  cut : Runs lexemes runs
  /-- No other runs fit the lexemes. -/
  unique : ∀ others, Runs lexemes others → others = runs
  /-- No lexeme but the semicolons is lost. -/
  whole : runs.flatten = lexemes.filter (!·.isSemicolon)
  /-- One statement per run, up to the first that is not answered with a tree. -/
  split : ∃ accepted rest, answered runs results = accepted ++ rest ∧
    List.Forall₂ StatementOf accepted p.statements ∧ Ending rest p.stop
  /-- Proper answers leave no other end than the last run or an error. -/
  proper : (∀ result ∈ results, result.Proper) → ∀ fault, p.stop ≠ some (.gaveUp fault)
  range : ∀ u ∈ p.statements, 0 ≤ u.start ∧ u.start < u.stop
  disjoint : p.statements.Pairwise (·.stop ≤ ·.start)

theorem parseRuns_stream {lexemes : List Lexeme} (h : Consecutive lexemes) (results : List Result) :
    StatementStream lexemes results (statementRuns lexemes)
        (parseRuns (statementRuns lexemes) results) := by
  have hruns := runs_statementRuns lexemes
  have hwhole := hruns.flatten_eq
  obtain ⟨accepted, rest, hsplit, hunits, hend⟩ := parseRuns_split _ hruns.ne_nil results
  have hflat := h.pairwise.filter (!·.isSemicolon)
  rw [← hwhole, List.pairwise_flatten] at hflat
  obtain ⟨hinner, houter⟩ := hflat
  have hmem : ∀ run ∈ accepted, run.1 ∈ statementRuns lexemes := by
    intro run hm
    rw [← answered_map_fst (statementRuns lexemes) results, hsplit]
    exact List.mem_map_of_mem (List.mem_append_left _ hm)
  refine ⟨hruns, fun others ho => ho.eq_statementRuns, hwhole,
    ⟨accepted, rest, hsplit, hunits, hend⟩, ?_, ?_, ?_⟩
  · intro hproper fault hstop
    rw [hstop] at hend
    cases hend with
    | gaveUp himproper =>
      have hmem := answered_proper hproper (statementRuns lexemes)
      rw [hsplit] at hmem
      exact himproper (hmem _ (List.mem_append_right _ List.mem_cons_self))
  · intro u hu
    obtain ⟨run, hm, hrun⟩ := exists_run_of_mem hunits u hu
    refine hrun.range_of_pairwise ?_ (hinner _ (hmem run hm))
    intro l hl
    exact h.range l ((mem_statementRuns (hmem run hm)).2 hl)
  · refine statements_pairwise hunits ?_
    rw [← answered_map_fst (statementRuns lexemes) results, hsplit, List.pairwise_map] at houter
    exact (List.pairwise_append.mp houter).1

/-- **The statements of a document.** Lexemes that follow one another are cut, in one way only, into
the maximal runs between semicolons. Each run has a statement, from its first lexeme to its last, up
to the first run that the grammar refuses, if any; then comes the error of that run, which blames
one of its lexemes. Only an answer that is no proper one ends the stream otherwise. The statements
lie one after the other in the text. A document without lexemes has no statement, and its error is
at the start of the text. -/
theorem parse_statementStream (a : Answer) :
    (∀ text, a.lexemes = .error text → a.parse.statements = [] ∧
      ∃ e, a.parse.stop = some (.failed e) ∧ e.position = 0) ∧
    ∀ lexemes, a.lexemes = .ok lexemes → Consecutive lexemes →
      ∃ runs, StatementStream lexemes a.results runs a.parse := by
  unfold Answer.parse
  constructor
  · intro text h
    rw [h]
    exact ⟨rfl, _, rfl, rfl⟩
  · intro lexemes h hlexemes
    rw [h]
    exact ⟨_, parseRuns_stream hlexemes a.results⟩

/-- Semicolons lead, double and trail; the second of three statements is refused at its second
lexeme. -/
theorem parse_statementStream_refused :
    let lexemes : List Lexeme := [⟨"SEMICOLON", ";", 1, 1, 0, 0⟩, ⟨"VAR", "a", 1, 3, 2, 2⟩,
      ⟨"SEMICOLON", ";", 1, 5, 4, 4⟩, ⟨"SEMICOLON", ";", 1, 6, 5, 5⟩, ⟨"VAR", "b", 1, 8, 7, 7⟩,
      ⟨"VAR", "c", 1, 10, 9, 9⟩, ⟨"SEMICOLON", ";", 1, 12, 11, 11⟩, ⟨"VAR", "d", 1, 14, 13, 13⟩,
      ⟨"SEMICOLON", ";", 1, 16, 15, 15⟩]
    let a : Answer :=
      { lexemes := .ok lexemes
        results := [.expressions [none], .syntaxError "" [{ line := some 1, column := some 10 }],
          .expressions []] }
    Consecutive lexemes ∧ (∃ runs, StatementStream lexemes a.results runs a.parse) ∧
      a.parse.statements.map (fun u => (u.start, u.stop)) = [(2, 3)] ∧
      ∃ e, a.parse.stop = some (.failed e) ∧ e.position = 9 ∧ e.statementStart = 7 := by
  intro lexemes a
  have hlexemes : Consecutive lexemes := ⟨by decide, by decide⟩
  exact ⟨hlexemes, (parse_statementStream a).2 lexemes rfl hlexemes, rfl, _, rfl, rfl, rfl⟩

end SqlStyle.Grammar
