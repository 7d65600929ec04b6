import SqlStyle.Proofs.Fields
import SqlStyle.Proofs.Runs

/-! # The verdict of a run

The exit status of a run and its summary are two verdicts. The status is 0 just if every path led
somewhere, every SQL file found there is a text, and every report is clean; the summary says that
the run passed just if every report is clean. So they part where something could not be read and all
that could is clean (`runLint_verdicts`). -/

namespace SqlStyle

/-! ## Files below a directory -/

namespace Entry

/-- Names lead down from an entry to a file. -/
inductive Leads : Entry → List String → Option ByteArray → Prop
  | here {contents : Option ByteArray} : Leads (file contents) [] contents
  | down {entries : List (String × Entry)} {name : String} {e : Entry} {names : List String}
      {contents : Option ByteArray} :
      (name, e) ∈ entries → Leads e names contents →
        Leads (directory entries) (name :: names) contents

mutual

theorem mem_filesBelow {names : List String} {contents : Option ByteArray} : (e : Entry) →
    ((names, contents) ∈ e.filesBelow ↔ e.Leads names contents)
  | file c => by
    rw [filesBelow, List.mem_singleton, Prod.mk.injEq]
    constructor
    · rintro ⟨rfl, rfl⟩
      exact .here
    · rintro ⟨⟩
      exact ⟨rfl, rfl⟩
  | directory entries => by
    rw [filesBelow, mem_filesOf entries]
    constructor
    · rintro ⟨name, e, rest, hmem, rfl, hleads⟩
      exact .down hmem hleads
    · rintro (_ | ⟨hmem, hleads⟩)
      exact ⟨_, _, _, hmem, rfl, hleads⟩

theorem mem_filesOf {names : List String} {contents : Option ByteArray} :
    (entries : List (String × Entry)) →
    ((names, contents) ∈ filesOf entries ↔
      ∃ name e rest, (name, e) ∈ entries ∧ names = name :: rest ∧
      e.Leads rest contents)
  | [] => by simp [filesOf]
  | (name, e) :: entries => by
    rw [filesOf, List.mem_append, mem_filesOf entries, List.mem_map]
    constructor
    · rintro (⟨⟨rest, c⟩, hmem, heq⟩ | ⟨other, e', rest, hmem, rfl, hleads⟩)
      · cases heq
        exact ⟨name, e, rest, List.mem_cons_self, rfl, (mem_filesBelow e).mp hmem⟩
      · exact ⟨other, e', rest, List.mem_cons_of_mem _ hmem, rfl, hleads⟩
    · rintro ⟨other, e', rest, hmem, rfl, hleads⟩
      rcases List.mem_cons.mp hmem with heq | hmem
      · cases heq
        exact .inl ⟨(rest, contents), (mem_filesBelow e).mpr hleads, rfl⟩
      · exact .inr ⟨other, e', rest, hmem, rfl, hleads⟩

end

end Entry

/-! ## What is found at paths -/

namespace Collected

variable (look : Path → Option Entry)

/-- The SQL files at a path: the file there, or in order those below the directory there. -/
def filesAt (p : Path) : List (Path × Option ByteArray) :=
  match look p with
  | none => []
  | some (.file contents) => if p.isSql then [(p, contents)] else []
  | some (.directory entries) => inDirectory p (.directory entries)

/-- An SQL file is found at one of some paths: it is named itself, or lies below a directory that
is. -/
inductive IsFound (paths : List Path) : Path → Option ByteArray → Prop
  | named {p : Path} {contents : Option ByteArray} :
      p ∈ paths → look p = some (.file contents) → p.isSql = true → IsFound paths p contents
  | below {p : Path} {entries : List (String × Entry)} {names : List String}
    {contents : Option ByteArray} :
      p ∈ paths → look p = some (.directory entries) →
        (Entry.directory entries).Leads names contents →
      (p.below names).isSql = true → IsFound paths (p.below names) contents

theorem mem_inDirectory {p path : Path} {e : Entry} {contents : Option ByteArray} :
    (path, contents) ∈ inDirectory p e ↔
      ∃ names, path = p.below names ∧ e.Leads names contents ∧ path.isSql = true := by
  simp only [inDirectory, List.mem_mergeSort, List.mem_filter, List.mem_map]
  constructor
  · rintro ⟨⟨⟨names, c⟩, hmem, heq⟩, hsql⟩
    cases heq
    exact ⟨names, rfl, (Entry.mem_filesBelow e).mp hmem, hsql⟩
  · rintro ⟨names, rfl, hleads, hsql⟩
    exact ⟨⟨(names, contents), (Entry.mem_filesBelow e).mpr hleads, rfl⟩, hsql⟩

theorem mem_flatMap_filesAt {paths : List Path} {path : Path} {contents : Option ByteArray} :
    (path, contents) ∈ paths.flatMap (filesAt look) ↔ IsFound look paths path contents := by
  rw [List.mem_flatMap]
  constructor
  · rintro ⟨p, hp, hmem⟩
    unfold filesAt at hmem
    split at hmem
    · cases hmem
    · split at hmem
      · cases List.mem_singleton.mp hmem
        exact .named hp ‹_› ‹_›
      · cases hmem
    · obtain ⟨names, rfl, hleads, hsql⟩ := mem_inDirectory.mp hmem
      exact .below hp ‹_› hleads hsql
  · rintro (⟨hp, hlook, hsql⟩ | ⟨hp, hlook, hleads, hsql⟩)
    · exact ⟨path, hp, by simp [filesAt, hlook, hsql]⟩
    · refine ⟨_, hp, ?_⟩
      simp only [filesAt, hlook]
      exact mem_inDirectory.mpr ⟨_, rfl, hleads, hsql⟩

/-- One more path adds the files at it, or is missing. -/
theorem addPath_found (c : Collected) (p : Path) :
    (addPath look c p).files = c.files ++ filesAt look p ∧
      (addPath look c p).missing = c.missing ++ [p].filter fun p => (look p).isNone := by
  unfold addPath filesAt
  cases hlook : look p with
  | none => simp [hlook]
  | some e =>
    cases e with
    | file contents => by_cases hsql : p.isSql = true <;> simp [hlook, hsql]
    | directory entries => simp [hlook]

theorem foldl_addPath (c : Collected) (paths : List Path) :
    (paths.foldl (addPath look) c).files = c.files ++ paths.flatMap (filesAt look) ∧
      (paths.foldl (addPath look) c).missing = c.missing ++ paths.filter fun p =>
          (look p).isNone := by
  induction paths generalizing c with
  | nil => simp
  | cons p paths ih =>
    obtain ⟨hfiles, hmissing⟩ := addPath_found look c p
    obtain ⟨ihfiles, ihmissing⟩ := ih (addPath look c p)
    rw [List.foldl_cons, ihfiles, ihmissing, hfiles, hmissing, List.flatMap_cons, List.append_assoc,
      List.append_assoc, ← List.filter_append, List.singleton_append]
    exact ⟨rfl, rfl⟩

theorem ofPaths_files (paths : List Path) :
    (ofPaths look paths).files = paths.flatMap (filesAt look) :=
  (foldl_addPath look {} paths).1

theorem ofPaths_missing (paths : List Path) :
    (ofPaths look paths).missing = paths.filter fun p => (look p).isNone :=
  (foldl_addPath look {} paths).2

/-- All paths lead somewhere, and all SQL files found there are texts. -/
def AllRead (paths : List Path) : Prop :=
  (∀ p ∈ paths, look p ≠ none) ∧ ∀ path contents, IsFound look paths path contents →
    textOf? contents ≠ none

theorem isComplete_ofPaths (paths : List Path) :
    (ofPaths look paths).isComplete = true ↔ AllRead look paths := by
  rw [isComplete, unreadable, ofPaths_files, ofPaths_missing, Bool.and_eq_true, List.isEmpty_iff,
    List.isEmpty_iff, List.filter_eq_nil_iff, List.map_eq_nil_iff, List.filter_eq_nil_iff]
  refine and_congr (by simp [Option.isNone_iff_eq_none]) ?_
  simp only [← mem_flatMap_filesAt]
  exact ⟨fun h path contents hmem => by simpa using h (path, contents) hmem,
    fun h f hmem => by simpa using h f.1 f.2 hmem⟩

end Collected

/-! ## Both verdicts -/

/-- The documents that a run reads: the statement on standard input, or the SQL files at its paths
that are texts. -/
def documentsRead (r : Surroundings) (o : Options) : List Document :=
  if o.quick then [Document.ofInput r.input]
  else ((o.paths.map Path.ofString).flatMap (Collected.filesAt r.look)).filterMap fun f =>
    (textOf? f.2).map fun text => ⟨some (toString f.1), text⟩

/-- Nothing that a run should read is missing or no text. -/
def ReadsAll (r : Surroundings) (o : Options) : Prop :=
  o.quick = true ∨ Collected.AllRead r.look (o.paths.map Path.ofString)

/-- A run gets as far as checking documents, and writes its reports as text. -/
structure GetsToChecks (r : Surroundings) (o : Options) (settings : Settings) : Prop where
  asText : o.format = "text"
  hasSettings : ∃ loaded, loadSettings r.environment (o.config.map r.configFile) = .ok loaded ∧
    loaded.settings = some settings
  hasInput : o.quick = true ∨ o.paths ≠ []
  /-- The grammar does not give up where trees are shown. -/
  showsTrees : o.showTrees = true → ∀ d ∈ documentsRead r o, ∀ fault,
    ((r.toolkit settings.dialect).parse d.text).stop ≠ some (.gaveUp fault)

variable {r : Surroundings} {o : Options} {settings : Settings} {report : Document → Report}

theorem exists_documentsFor (h : o.quick = true ∨ o.paths ≠ []) :
    ∃ collected, documentsFor r o = some (documentsRead r o, collected) ∧
      (collected.isComplete = true ↔ ReadsAll r o) := by
  unfold documentsFor documentsRead ReadsAll
  cases hquick : o.quick with
  | true => exact ⟨{}, rfl, by simp; rfl⟩
  | false =>
    have hpaths : o.paths.isEmpty = false := by simpa [hquick] using h
    refine ⟨Collected.ofPaths r.look (o.paths.map Path.ofString), ?_, ?_⟩
    · simp [hpaths, Collected.documents, Collected.ofPaths_files]
    · simp [Collected.isComplete_ofPaths]

theorem exists_mapM_eq_ok {ε α β : Type} {f : α → Except ε β} {xs : List α}
    (h : ∀ x ∈ xs, ∃ y, f x = .ok y) :
    ∃ ys, xs.mapM f = .ok ys := by
  induction xs with
  | nil => exact ⟨[], rfl⟩
  | cons x xs ih =>
    obtain ⟨⟨y, hy⟩, hrest⟩ := List.forall_mem_cons.mp h
    obtain ⟨ys, hys⟩ := ih hrest
    exact ⟨y :: ys, by rw [List.mapM_cons, hy, hys]; rfl⟩

theorem exists_treesFor (h : GetsToChecks r o settings) :
    ∃ shown, treesFor (r.toolkit settings.dialect) o (documentsRead r o) = .ok shown := by
  unfold treesFor
  cases htrees : o.showTrees with
  | false => exact ⟨[], rfl⟩
  | true =>
    refine exists_mapM_eq_ok fun d hd => ?_
    have hstop := h.showsTrees htrees d hd
    unfold showTrees
    dsimp only
    split
    · exact absurd ‹_› (hstop _)
    · exact ⟨_, rfl⟩

/-- A line says that a run passed. -/
def Display.SaysPassed : Display → Prop
  | .line text => "sqllint [green]PASSED[/green]".toList <+: text.toList
  | _ => False

/-- The summary says so just if every report is clean. -/
theorem summary_saysPassed (reports : List Report) (elapsed : String) :
    (Display.summary reports elapsed).SaysPassed ↔ ∀ report ∈ reports, report.isClean = true := by
  rw [← List.all_eq_true]
  unfold Display.summary Display.SaysPassed
  cases reports.all Report.isClean with
  | true => simp [toString]
  | false => simp [toString]

/-- What a run comes to that gets as far as checking documents. -/
theorem exists_runLint_eq (h : GetsToChecks r o settings)
    (hreport : ∀ d, reportOn settings (r.toolkit settings.dialect) d = .ok (report d)) :
    ∃ outcome, runLint r o = .ok outcome ∧
      outcome.output = Format.text.write ((documentsRead r o).map report) ∧
      outcome.summarised = some ((documentsRead r o).map report) ∧
        (outcome.status = 0 ∨ outcome.status = 1) ∧
      (outcome.status = 0 ↔ ReadsAll r o ∧ ∀ d ∈ documentsRead r o, (report d).isClean = true) := by
  obtain ⟨loaded, hloaded, hsettings⟩ := h.hasSettings
  obtain ⟨collected, hdocuments, hcomplete⟩ := exists_documentsFor (r := r) h.hasInput
  obtain ⟨shown, hshown⟩ := exists_treesFor h
  simp only [runLint, h.asText, Format.ofName?, hloaded, bind, Except.bind, hsettings,
    runWith_eq hreport hdocuments, hshown, Except.map]
  refine ⟨_, rfl, rfl, rfl, ?_, ?_⟩
  · split
    · exact .inl rfl
    · exact .inr rfl
  · rw [← hcomplete]
    simp

/-- **Two verdicts.** A run that gets as far as checking documents ends with status 0 or 1 and
writes, in order, the lines of one report on each document that it reads. The status is 0 just if it
reads all that it should and all reports are clean. Its last line says that it passed just if all
reports are clean; so this agrees with the status unless something is missing or no text and all
reports are clean. -/
theorem runLint_verdicts (h : GetsToChecks r o settings) :
    ∃ (outcome : Outcome) (report : Document → Report), runLint r o = .ok outcome ∧
      (∀ d, reportOn settings (r.toolkit settings.dialect) d = .ok (report d)) ∧
      outcome.output = String.join ((documentsRead r o).flatMap fun d =>
        (report d).render.map (· ++ "\n")) ∧
      (outcome.status = 0 ∨ outcome.status = 1) ∧
      (outcome.status = 0 ↔ ReadsAll r o ∧ ∀ d ∈ documentsRead r o, (report d).isClean = true) ∧
      ∀ elapsed, ∃ notes summary, outcome.shown elapsed = notes ++ [summary] ∧
        (summary.SaysPassed ↔ ∀ d ∈ documentsRead r o, (report d).isClean = true) ∧
        ((summary.SaysPassed ↔ outcome.status = 0) ↔
          ReadsAll r o ∨ ∃ d ∈ documentsRead r o, (report d).isClean = false) := by
  obtain ⟨report, hreport⟩ := exists_report settings (r.toolkit settings.dialect)
  obtain ⟨outcome, hrun, houtput, hsummarised, hstatus, hzero⟩ := exists_runLint_eq h hreport
  refine ⟨outcome, report, hrun, hreport, ?_, hstatus, hzero, fun elapsed => ?_⟩
  · rw [houtput, Format.write, List.flatMap_map, List.map_flatMap]
  · have hpassed : (Display.summary ((documentsRead r o).map report) elapsed).SaysPassed ↔
        ∀ d ∈ documentsRead r o, (report d).isClean = true := by
      rw [summary_saysPassed, List.forall_mem_map]
    refine ⟨outcome.notes, _, by rw [Outcome.shown, hsummarised]; rfl, hpassed, ?_⟩
    have hdirty : (∃ d ∈ documentsRead r o, (report d).isClean = false) ↔
        ¬ ∀ d ∈ documentsRead r o, (report d).isClean = true := by
      simp
    rw [hpassed, hzero, hdirty]
    by_cases hall : ReadsAll r o <;> simp [hall]

/-- A run with nothing but paths gets there if it has settings. -/
theorem getsToChecks_of_load {look : Path → Option Entry} {toolkit : Dialect → Toolkit}
    {path : String} (h : Settings.load { look := look } none [] = .ok settings) :
    GetsToChecks { look := look, toolkit := toolkit } { paths := [path] } settings where
  asText := rfl
  hasSettings := ⟨⟨some settings, []⟩, by simp [loadSettings, Surroundings.environment, h], rfl⟩
  hasInput := .inr (by simp)
  showsTrees := nofun

/-- A directory holds an SQL file that cannot be opened, and another file. -/
def closedDirectory (p : Path) : Option Entry :=
  if p = Path.ofString "d" then some (.directory [("a.sql", .file none), ("b.txt", .file none)])
  else none

/-- The run fails, but says that it passed. -/
theorem runLint_verdicts_closed :
    ∃ outcome, runLint { look := closedDirectory, toolkit := fun _ => .empty }
      { paths := ["d"] } = .ok outcome ∧
      outcome.status = 1 ∧ ∀ elapsed, ∃ notes summary, outcome.shown elapsed = notes ++ [summary] ∧
        summary.SaysPassed := by
  have hdefault : (Settings.load { look := closedDirectory } none []).toOption.map Settings.debug =
      some false := by
    decide +kernel
  obtain ⟨settings, hsettings, -⟩ := exists_eq_ok_of_toOption hdefault
  have hchecks : GetsToChecks { look := closedDirectory, toolkit := fun _ => .empty }
      { paths := ["d"] } settings :=
    getsToChecks_of_load hsettings
  obtain ⟨outcome, report, hrun, -, -, hstatus, hzero, hsummary⟩ := runLint_verdicts hchecks
  have hnone : (documentsRead { look := closedDirectory, toolkit := fun _ => .empty }
    { paths := ["d"] }).isEmpty =
      true := by
    decide +kernel
  have hclosed : ¬ ReadsAll { look := closedDirectory, toolkit := fun _ => .empty }
      { paths := ["d"] } := by
    rintro (hquick | ⟨-, hfiles⟩)
    · cases hquick
    · have hd : closedDirectory (Path.ofString "d") =
          some (.directory [("a.sql", .file none), ("b.txt", .file none)]) := if_pos rfl
      have hsql : ((Path.ofString "d").below ["a.sql"]).isSql = true := by decide +kernel
      exact hfiles _ none (.below (List.mem_singleton.mpr rfl) hd
        (.down List.mem_cons_self .here) hsql) rfl
  refine ⟨outcome, hrun, hstatus.resolve_left fun h => hclosed (hzero.mp h).1, fun elapsed => ?_⟩
  obtain ⟨notes, summary, hshown, hpassed, -⟩ := hsummary elapsed
  exact ⟨notes, summary, hshown, hpassed.mpr (by simp [List.isEmpty_iff.mp hnone])⟩

/-- A path that leads nowhere is no document, so it fails the run but does not keep the summary from
saying that the run passed. -/
theorem runLint_missing_path_passed :
    ∃ outcome, runLint { look := fun _ => none, toolkit := fun _ => .empty }
      { paths := ["missing.sql"] } =
        .ok outcome ∧ outcome.status = 1 ∧
      ∀ elapsed, ∃ notes summary, outcome.shown elapsed = notes ++ [summary] ∧
          summary.SaysPassed := by
  have hdefault : (Settings.load {} none []).toOption.map Settings.debug = some false := by
    decide +kernel
  obtain ⟨settings, hsettings, -⟩ := exists_eq_ok_of_toOption hdefault
  have hchecks : GetsToChecks { look := fun _ => none, toolkit := fun _ => .empty }
    { paths := ["missing.sql"] }
      settings := getsToChecks_of_load hsettings
  obtain ⟨report, hreport⟩ := exists_report settings .empty
  obtain ⟨outcome, hrun, -, hsummarised, hstatus, hzero⟩ := exists_runLint_eq hchecks hreport
  have hmissing : ¬ ReadsAll { look := fun _ => none, toolkit := fun _ => .empty }
      { paths := ["missing.sql"] } := by
    rintro (hquick | ⟨hpaths, -⟩)
    · cases hquick
    · exact hpaths _ (List.mem_singleton.mpr rfl) rfl
  refine ⟨outcome, hrun, hstatus.resolve_left fun h => hmissing (hzero.mp h).1, fun elapsed => ?_⟩
  refine ⟨outcome.notes, _, by rw [Outcome.shown, hsummarised]; rfl, ?_⟩
  rw [summary_saysPassed]
  exact nofun

end SqlStyle
