import SqlStyle.Proofs.Reports

/-! # Reading directives in one pass

A document is walked once, directive by directive and name by name: a name that a rule goes by asks
for a switch, any other is reported (`scan`). The walk meets the comments in the order of their
ends, so its requests need no sorting, and recording them as they are found builds the same ledger
(`scan_streams`), the one that says what the directives mean (`ledger_isActive_eq`). Every name
stands inside the document, so no report of it fails hard. What can stop the walk is a tab width
that leaves an unknown name without a column: zero, or a negative one. -/

namespace SqlStyle

namespace Source

/-- The offset has a position with a column, counted from one. -/
def Placeable (s : Source) (offset : Int) : Prop := ∃ p, s.translate offset = .ok p ∧ 0 < p.column

theorem Valid.placeable {s : Source} (hs : s.Valid) {offset : Int}
    (h : 0 ≤ offset ∧ offset ≤ s.text.size) : s.Placeable offset := by
  rcases translate_cases hs offset with ⟨_, _, hp⟩ | ⟨hout, _⟩
  · exact hp
  · exact absurd h hout

theorem foldlM_advance_error {width : Int} {e : PositionError} (chars : List Char) :
    ∀ col, chars.foldlM (advance width) col = .error e → e = .zeroTabWidth := by
  induction chars with
  | nil => intro col h; cases h
  | cons c rest ih =>
    intro col h
    rw [List.foldlM_cons] at h
    cases hc : advance width col c with
    | ok next => rw [hc] at h; exact ih next h
    | error e' =>
      rw [hc] at h
      cases h
      unfold advance at hc
      split at hc
      · split at hc
        · cases hc; rfl
        · cases hc
      · cases hc

/-- Inside a document only the width of its tabs can be in the way of a position. -/
theorem translate_error {s : Source} {offset : Int} (hin : 0 ≤ offset ∧ offset ≤ s.text.size)
    {e : PositionError} (h : s.translate offset = .error e) : e = .zeroTabWidth := by
  rw [translate, if_pos hin] at h
  unfold positionAt at h
  dsimp only at h
  cases hcol : column s.tabSize (s.text.extract
      ((s.lineStarts.takeWhile (· ≤ offset.toNat)).getLastD 0) offset.toNat).toList with
  | ok col => rw [hcol] at h; cases h
  | error e' =>
    rw [hcol] at h
    cases h
    unfold column at hcol
    split at hcol
    · cases hcol
    · exact foldlM_advance_error _ _ hcol

end Source

namespace Report

/-- An issue inside a document is a diagnostic if its offset has a column, and cannot be added
otherwise. -/
theorem add_inside (r : Report) (rule : Rule) {s : Source} {f : Finding} (h : f.Inside s) :
    (s.Placeable f.offset ∧ ∃ next, r.add rule s f.offset f.message = .ok next ∧
      next.failures = r.failures) ∨
      (¬ s.Placeable f.offset ∧ ∃ fault, r.add rule s f.offset f.message = .error fault) := by
  unfold add addOf
  cases ht : s.translate f.offset with
  | error e =>
    obtain rfl := Source.translate_error h ht
    refine .inr ⟨?_, _, rfl⟩
    rintro ⟨p, hp, _⟩
    rw [ht] at hp
    cases hp
  | ok p =>
    simp only [addAt]
    by_cases hcol : 0 < p.column
    · rw [if_pos hcol]
      exact .inl ⟨⟨p, ht, hcol⟩, _, rfl, rfl⟩
    · rw [if_neg hcol]
      refine .inr ⟨?_, _, rfl⟩
      rintro ⟨q, hq, hpos⟩
      rw [ht] at hq
      cases hq
      exact hcol hpos

/-- Issues inside a document can all be added just if each of them has a column, and none fails
hard. -/
theorem foldlM_add_inside (rule : Rule) {s : Source} (findings : List Finding)
    (h : ∀ f ∈ findings, f.Inside s) : ∀ r : Report,
      ((∃ next, findings.foldlM (fun report f => report.add rule s f.offset f.message) r =
        .ok next) ↔
        ∀ f ∈ findings, s.Placeable f.offset) ∧
      ∀ next, findings.foldlM (fun report f => report.add rule s f.offset f.message) r = .ok next →
        next.failures = r.failures := by
  induction findings with
  | nil =>
    intro r
    refine ⟨⟨by simp, fun _ => ⟨r, rfl⟩⟩, ?_⟩
    intro next hnext
    cases hnext
    rfl
  | cons f rest ih =>
    intro r
    obtain ⟨hf, hrest⟩ := List.forall_mem_cons.mp h
    rw [List.foldlM_cons, List.forall_mem_cons]
    rcases add_inside r rule hf with ⟨hplace, mid, hmid, hfails⟩ | ⟨hno, fault, hfault⟩
    · obtain ⟨hiff, hsame⟩ := ih hrest mid
      rw [hmid]
      exact ⟨hiff.trans (by simp [hplace]), fun next hnext => (hsame next hnext).trans hfails⟩
    · rw [hfault]
      refine ⟨⟨?_, fun hall => absurd hall.1 hno⟩, ?_⟩
      · rintro ⟨next, hnext⟩
        cases hnext
      · intro next hnext
        cases hnext

end Report

namespace Directive

/-! ## The pass in two parts -/

/-- What a name asks for. -/
def request? (m : Placed × String) : Option Event :=
  (Rule.find? m.2).map fun rule => ⟨m.1.position, rule, m.1.directive.direction⟩

/-- What is reported about a name. -/
def finding? (reportUnknown : Bool) (m : Placed × String) : Option Finding :=
  if reportUnknown && (Rule.find? m.2).isNone then
    some ⟨m.1.position, s!"Unknown NOLINT error category: '{m.2}'"⟩
  else none

theorem events_eq_mentions (s : Source) : events s = (mentions s).filterMap request? := by
  unfold events mentions Placed.events
  rw [List.filterMap_flatMap]
  congr 1
  funext d
  rw [List.filterMap_map]
  rfl

theorem unknownFindings_eq_mentions (s : Source) (reportUnknown : Bool) :
    unknownFindings s reportUnknown = (mentions s).filterMap (finding? reportUnknown) := by
  unfold unknownFindings mentions Placed.unknownNames
  cases reportUnknown with
  | false =>
    refine (List.filterMap_eq_nil_iff.mpr ?_).symm
    intro m _
    rfl
  | true =>
    rw [if_pos rfl, List.filterMap_flatMap]
    congr 1
    funext d
    rw [List.filterMap_map, ← List.filterMap_eq_map, List.filterMap_filter]
    rfl

theorem foldlM_takeName (s : Source) (reportUnknown : Bool) (ms : List (Placed × String)) :
    ∀ (found : List Event) (report : Report),
      ms.foldlM (takeName s reportUnknown) (found, report) =
        ((ms.filterMap (finding? reportUnknown)).foldlM
          (fun (report : Report) f => report.add .noLint s f.offset f.message) report).map
          (found ++ ms.filterMap request?, ·) := by
  induction ms with
  | nil => intro found report; simp [pure, Except.pure, Except.map]
  | cons m rest ih =>
    intro found report
    rw [List.foldlM_cons]
    cases hrule : Rule.find? m.2 with
    | some rule =>
      have hreq : request? m = some ⟨m.1.position, rule, m.1.directive.direction⟩ := by
        simp [request?, hrule]
      have hfind : finding? reportUnknown m = none := by simp [finding?, hrule]
      rw [List.filterMap_cons_some hreq, List.filterMap_cons_none hfind]
      simp only [takeName, hrule]
      refine (ih _ report).trans ?_
      rw [List.append_assoc, List.singleton_append]
    | none =>
      have hreq : request? m = none := by simp [request?, hrule]
      rw [List.filterMap_cons_none hreq]
      cases reportUnknown with
      | false =>
        have hfind : finding? false m = none := rfl
        rw [List.filterMap_cons_none hfind]
        simp only [takeName, hrule]
        exact ih found report
      | true =>
        have hfind : finding? true m =
            some ⟨m.1.position, s!"Unknown NOLINT error category: '{m.2}'"⟩ := by
              simp [finding?, hrule]
        rw [List.filterMap_cons_some hfind, List.foldlM_cons]
        simp only [takeName, hrule, if_true]
        cases report.add .noLint s m.1.position s!"Unknown NOLINT error category: '{m.2}'" with
        | error fault => rfl
        | ok next => exact ih found next

/-- One pass finds the requests of the document and makes the report on its unknown names. -/
theorem scan_eq (s : Source) (reportUnknown : Bool) :
    scan s reportUnknown = (unknownReport s reportUnknown).map (events s, ·) := by
  rw [unknownReport_eq_foldlM, unknownFindings_eq_mentions, events_eq_mentions]
  exact foldlM_takeName s reportUnknown (mentions s) [] (Report.forSource s)

theorem scan_ok {s : Source} {reportUnknown : Bool} {found : List Event} {report : Report}
    (h : scan s reportUnknown = .ok (found, report)) :
    found = events s ∧ unknownReport s reportUnknown = .ok report := by
  rw [scan_eq] at h
  cases hr : unknownReport s reportUnknown with
  | error fault => rw [hr] at h; cases h
  | ok report' => rw [hr] at h; cases h; exact ⟨rfl, rfl⟩

/-- What one pass builds are the ledger of the document and the report on its unknown names. -/
theorem build_eq {s : Source} {locked : List Rule} {l : Ledger} (hl : ledger s locked = .ok l)
    (reportUnknown : Bool) :
    build s locked reportUnknown = (unknownReport s reportUnknown).map (l, ·) := by
  have hevents : Ledger.ofEvents (events s) locked = .ok l := hl
  rw [build, scan_eq]
  cases unknownReport s reportUnknown with
  | error fault => rfl
  | ok report =>
    show ((Ledger.ofEvents (events s) locked).mapError fun e => Fault.raised e.message) >>=
      (fun l => .ok (l, report)) = .ok (l, report)
    rw [hevents]
    rfl

/-! ## What the pass finds -/

theorem events_inside {s : Source} {e : Event} (h : e ∈ events s) :
    0 ≤ e.position ∧ e.position ≤ s.text.size := by
  obtain ⟨d, hd, he⟩ := List.mem_flatMap.mp h
  rw [position_of_mem_events he]
  have := inSource_position_le hd
  omega

/-- The pass comes to an end just if every unknown name that it reports has a column. -/
theorem scan_ok_iff (s : Source) (reportUnknown : Bool) :
    (∃ found, scan s reportUnknown = .ok found) ↔
      ∀ f ∈ unknownFindings s reportUnknown, s.Placeable f.offset := by
  rw [← (Report.foldlM_add_inside .noLint _ (fun _ => unknownFindings_inside)
    (Report.forSource s)).1,
    ← unknownReport_eq_foldlM, scan_eq]
  cases unknownReport s reportUnknown with
  | error fault => simp [Except.map]
  | ok report => simp [Except.map]

theorem unknownReport_failures {s : Source} {reportUnknown : Bool} {report : Report}
    (h : unknownReport s reportUnknown = .ok report) : report.failures = [] := by
  rw [unknownReport_eq_foldlM] at h
  exact (Report.foldlM_add_inside .noLint _ (fun _ => unknownFindings_inside)
    (Report.forSource s)).2 report h

theorem ofEvents_events (s : Source) (locked : List Rule) :
    Ledger.ofEvents (events s) locked = (Ledger.start locked).recordAll (events s) := by
  rw [Ledger.ofEvents, List.mergeSort_of_pairwise ((events_pairwise s).imp decide_eq_true)]

/-- The one ledger that reading the directives of a document builds. Under tabs that leave every
name a column, reading them comes to an end. -/
def Builds (s : Source) (locked : List Rule) (l : Ledger) : Prop :=
  ∀ reportUnknown, (∀ l' report, build s locked reportUnknown = .ok (l', report) → l' = l) ∧
    (s.Valid → ∃ report, build s locked reportUnknown = .ok (l, report))

theorem builds_ledger {s : Source} {locked : List Rule} {l : Ledger}
    (hl : ledger s locked = .ok l) : Builds s locked l := by
  intro reportUnknown
  rw [build_eq hl]
  refine ⟨fun l' report h => ?_, fun hs => ?_⟩
  · cases hreport : unknownReport s reportUnknown with
    | error fault => rw [hreport] at h; cases h
    | ok found => rw [hreport] at h; cases h; rfl
  · rw [unknownReport_eq hs]
    exact ⟨_, rfl⟩

/-- **What the directives of a document mean.** Its ledger can always be built, and reading them
builds no other. A locked rule is active nowhere in it, and any other rule is active at an offset
just if the last comment before the offset that switches the rule leaves it so. -/
theorem ledger_isActive_eq (s : Source) (locked : List Rule) :
    ∃ l, ledger s locked = .ok l ∧ Builds s locked l ∧
      ∀ (r : Rule) (p : Int), l.isActive r p = (decide (r ∉ locked) && activeAt s r p) := by
  obtain ⟨l, hl, _, hact⟩ := ledger_spec s locked
  refine ⟨l, hl, builds_ledger hl, ?_⟩
  intro r p
  rw [hact]
  simp only [activeAt, ← lastRequest?_source]
  cases Ledger.lastRequest? (events s) r p with
  | none => rfl
  | some e => rfl

/-- **Recording on the fly.** Reading the directives of a document comes to an end just if each
unknown name that it reports has a column; with tabs of positive width, or of none, it always does.
What it then has found are requests in document order, inside the document, and a report without
hard failures. Recorded in that order on a fresh ledger, the requests are all accepted and leave the
very ledger that sorting them first would build. -/
theorem scan_streams (s : Source) (reportUnknown : Bool) :
    ((∃ found, scan s reportUnknown = .ok found) ↔
      ∀ f ∈ unknownFindings s reportUnknown, s.Placeable f.offset) ∧
    (s.Valid → ∃ found, scan s reportUnknown = .ok found) ∧
    ∀ found report, scan s reportUnknown = .ok (found, report) →
      found = events s ∧ unknownReport s reportUnknown = .ok report ∧
      found.Pairwise (·.position ≤ ·.position) ∧
      (∀ e ∈ found, 0 ≤ e.position ∧ e.position ≤ s.text.size) ∧
      report.failures = [] ∧
      ∀ locked, ∃ l, (Ledger.start locked).recordAll found = .ok l ∧
        Ledger.ofEvents found locked = .ok l ∧
        ledger s locked = .ok l := by
  refine ⟨scan_ok_iff s reportUnknown, ?_, ?_⟩
  · intro hs
    refine (scan_ok_iff s reportUnknown).mpr ?_
    intro f hf
    exact hs.placeable (unknownFindings_inside hf)
  · intro found report h
    obtain ⟨rfl, hreport⟩ := scan_ok h
    refine ⟨rfl, hreport, events_pairwise s, fun e => events_inside,
      unknownReport_failures hreport, ?_⟩
    intro locked
    obtain ⟨l, hl, _⟩ := Ledger.ofEvents_spec (events s) locked
    exact ⟨l, (ofEvents_events s locked).symm.trans hl, hl, hl⟩

/-- Two directives, the second on the last line and after a tab, with an unknown name between two
rules. -/
theorem scan_streams_lastLine :
    let s : Source :=
      { text := Text.ofString "-- NOLINT(join)\n\t# LINT(join, bogus, nolint)", tabSize := some 4 }
    s.Valid ∧ ∃ found report, scan s true = .ok (found, report) ∧
      found = [⟨15, .join, .disable⟩, ⟨44, .join, .enable⟩, ⟨44, .noLint, .enable⟩] ∧
      report.failures = [] ∧
      ∃ l, (Ledger.start []).recordAll found = .ok l ∧ Ledger.ofEvents found [] = .ok l := by
  intro s
  have hs : s.Valid := by
    intro width h
    cases h
    decide
  obtain ⟨_, hreturns, hfound⟩ := scan_streams s true
  obtain ⟨⟨found, report⟩, hscan⟩ := hreturns hs
  obtain ⟨hevents, _, _, _, hfails, hledger⟩ := hfound found report hscan
  obtain ⟨l, hrecord, hof, _⟩ := hledger []
  exact ⟨hs, found, report, hscan, hevents.trans (by decide +kernel), hfails, l, hrecord, hof⟩

/-- Under tabs of width zero an unknown name behind a tab stops the pass. -/
theorem scan_zeroTabWidth :
    let s : Source := { text := Text.ofString "\t-- NOLINT(bogus)", tabSize := some 0 }
    s.delimiter = ['\n'] ∧ ∀ found, scan s true ≠ .ok found := by
  intro s
  refine ⟨rfl, ?_⟩
  have hstop : unknownReport s true = .error .zeroTabWidth := by decide +kernel
  intro found hfound
  rw [scan_eq, hstop] at hfound
  cases hfound

end Directive

end SqlStyle
