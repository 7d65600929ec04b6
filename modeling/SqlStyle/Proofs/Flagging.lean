import SqlStyle.Check.Suite

/-! # Flagging along the way

A check that walks over a document flags an issue as soon as it meets one, and may keep a state from
one item to the next. No walk reads the report that it adds to, so walking and flagging comes to the
same as finding all issues first and then leaving out those where the rule is inactive
(`Flagging.foldlM_eq`).

Here the walks of the checks that keep a state are written out, and each is equal to its check:
`lineLimit_eq_walk`, `statementSemicolon_eq_walk`, `commentStyle_eq_walk`, `uniformIndent_eq_walk`,
`tabOutsideIndent_eq_walk` and `imports_eq_walk`. The checks of the tree keep none and flag what
they find at one node after the other (`ofNodes_flags`). -/

namespace SqlStyle

/-- Adds an issue to a report, unless the rule is inactive at its offset. -/
def Ledger.flag (l : Ledger) (rule : Rule) (s : Source) (report : Report) (f : Finding) :
    Except Fault Report :=
  if l.isActive rule f.offset then report.add rule s f.offset f.message else .ok report

/-- Flagging issues one after the other adds those where the rule is active. -/
theorem Ledger.foldlM_flag (l : Ledger) (rule : Rule) (s : Source) (findings : List Finding) :
    ∀ report : Report, findings.foldlM (l.flag rule s) report =
      (findings.filter fun f => l.isActive rule f.offset).foldlM
        (fun report f => report.add rule s f.offset f.message) report := by
  induction findings with
  | nil => intro report; rfl
  | cons f rest ih =>
    intro report
    rw [List.foldlM_cons, flag]
    cases hactive : l.isActive rule f.offset with
    | true =>
      simp only [List.filter_cons, hactive, if_true, List.foldlM_cons]
      exact bind_congr ih
    | false =>
      simp only [List.filter_cons, hactive, Bool.false_eq_true, if_false]
      exact ih report

theorem Ledger.report_eq_flag (l : Ledger) (rule : Rule) (s : Source) (findings : List Finding) :
    l.report rule s findings = findings.foldlM (l.flag rule s) (Report.forSource s) :=
  (l.foldlM_flag rule s findings (Report.forSource s)).symm

namespace Flagging

variable {σ ι : Type}

/-- The issues that a walk finds. At each item it finds some in the state it is in, and goes on in
another state. -/
def found (look : σ → ι → List Finding × σ) : σ → List ι → List Finding
  | _, [] => []
  | state, item :: items => (look state item).1 ++ found look (look state item).2 items

/-- A walk whose steps flag what they find, and go on in a state that does not depend on the report,
flags all that it finds. -/
theorem foldlM_eq {flag : Report → Finding → Except Fault Report}
    {step : σ × Report → ι → Except Fault (σ × Report)} {look : σ → ι → List Finding × σ}
    (hstep : ∀ state report item, step (state, report) item =
      ((look state item).1.foldlM flag report).map ((look state item).2, ·)) (items : List ι) :
    ∀ state report, (items.foldlM step (state, report)).map Prod.snd =
      (found look state items).foldlM flag report := by
  induction items with
  | nil => intro state report; rfl
  | cons item items ih =>
    intro state report
    rw [List.foldlM_cons, hstep, found, List.foldlM_append]
    cases (look state item).1.foldlM flag report with
    | error fault => rfl
    | ok report => exact ih (look state item).2 report

end Flagging

namespace Check

open Flagging

variable (flag : Report → Finding → Except Fault Report)

/-- Flags an issue if there is one. -/
def flagIf (wrong : Bool) (report : Report) (f : Finding) : Except Fault Report :=
  if wrong then flag report f else .ok report

theorem flagIf_eq (wrong : Bool) (report : Report) (f : Finding) :
    flagIf flag wrong report f = (if wrong then [f] else []).foldlM flag report := by
  cases wrong with
  | false => rfl
  | true => exact (bind_pure _).symm

/-! ## Line length -/

/-- The line of this end is too long. -/
def lineFinding (limit stop : Nat) : Finding :=
  ⟨stop, s!"Lines should be <= {limit} characters long."⟩

/-- A line over the limit that is no header. -/
def isOverlong (limit : Nat) (line : List Char) : Bool :=
  limit < line.length && !Name.isHeaderLine (String.ofList line)

/-- Looks at the line that begins at an offset. -/
def lineStep (limit : Nat) : Nat × Report → List Char → Except Fault (Nat × Report)
  | (start, report), line => do
    let stop := start + line.length
    let report ← flagIf flag (isOverlong limit line) report (lineFinding limit stop)
    .ok (stop + 1, report)

def lineLook (limit start : Nat) (line : List Char) : List Finding × Nat :=
  (if isOverlong limit line then [lineFinding limit (start + line.length)] else [],
    start + line.length + 1)

theorem found_lines (limit : Nat) (lines : List (List Char)) : ∀ start,
    found (lineLook limit) start lines = overlongLines limit start lines := by
  induction lines with
  | nil => intro start; rfl
  | cons line rest ih =>
    intro start
    rw [found, overlongLines, ← ih]
    rfl

theorem lineLimit_eq_walk (c : Context) (s : Source) (session : Session) :
    lineLimit.run c s session = (((linesOf s).foldlM
      (lineStep (c.ledger.flag .lineLimit s) c.settings.lineLimit.val)
        (0, Report.forSource s)).map Prod.snd, session) := by
  have hstep (start : Nat) (report : Report) (line : List Char) :
      lineStep (c.ledger.flag .lineLimit s) c.settings.lineLimit.val (start, report) line =
        ((lineLook c.settings.lineLimit.val start line).1.foldlM
          (c.ledger.flag .lineLimit s) report).map (start + line.length + 1, ·) := by
    rw [lineStep, flagIf_eq]
    rfl
  rw [foldlM_eq hstep, found_lines, ← Ledger.report_eq_flag]
  rfl

/-! ## Closing semicolon -/

/-- The last index that is no comment and no space so far, and whether a semicolon is there. -/
def semicolonStep (t : Text) (last : Option (Nat × Bool)) (piece : Scan.Piece) :
    Option (Nat × Bool) :=
  (significant? t piece).or last

theorem foldl_semicolonStep (t : Text) (pieces : List Scan.Piece) : ∀ last,
    pieces.foldl (semicolonStep t) last =
      (pieces.filterMap (significant? t)).getLast?.or last := by
  induction pieces with
  | nil => intro last; rfl
  | cons piece rest ih =>
    intro last
    rw [List.foldl_cons, ih, semicolonStep]
    cases hpiece : significant? t piece with
    | none => rw [List.filterMap_cons_none hpiece]; rfl
    | some found =>
      rw [List.filterMap_cons_some hpiece, List.getLast?_cons]
      cases (rest.filterMap (significant? t)).getLast? <;> rfl

/-- Flags the last index, after the walk, unless a semicolon is there. -/
def flagUnclosed (report : Report) : Option (Nat × Bool) → Except Fault Report
  | some (last, false) => flag report ⟨last + 1, "Each statement should end with a semicolon ';'."⟩
  | _ => .ok report

theorem statementSemicolon_eq_walk (c : Context) (s : Source) (session : Session) :
    statementSemicolon.run c s session =
      (flagUnclosed (c.ledger.flag .statementSemicolon s) (Report.forSource s)
        ((Scan.pieces s.text s.delimiter).foldl (semicolonStep s.text) none), session) := by
  rw [foldl_semicolonStep, Option.or_none]
  unfold statementSemicolon ofText
  simp only [Ledger.report_eq_flag]
  rcases ((Scan.pieces s.text s.delimiter).filterMap (significant? s.text)).getLast? with
    _ | ⟨last, _ | _⟩
  · rfl
  · exact Prod.ext (bind_pure _) rfl
  · rfl

/-! ## Comment markers -/

/-- A comment with another marker than the first one. -/
def markerFinding (first : Scan.Marker) (comment : Scan.LineComment) : Finding :=
  let expected := first.text
  let found := comment.marker.text
  ⟨comment.start,
    s!"One line comments should be consistent, expected: {expected}, found: {found}"⟩

/-- Looks at a comment, with the marker of the first one if there was one. -/
def markerStep : Option Scan.Marker × Report → Scan.LineComment →
    Except Fault (Option Scan.Marker × Report)
  | (none, report), comment => .ok (some comment.marker, report)
  | (some first, report), comment => do
    let report ← flagIf flag (comment.marker != first) report (markerFinding first comment)
    .ok (some first, report)

def markerLook : Option Scan.Marker → Scan.LineComment → List Finding × Option Scan.Marker
  | none, comment => ([], some comment.marker)
  | some first, comment =>
    (if comment.marker != first then [markerFinding first comment] else [], some first)

theorem found_markers (first : Scan.Marker) (comments : List Scan.LineComment) :
    found markerLook (some first) comments =
      (comments.filter (·.marker != first)).map (markerFinding first) := by
  induction comments with
  | nil => rfl
  | cons comment rest ih =>
    rw [found, markerLook, ih, List.filter_cons]
    split <;> rfl

theorem commentStyle_eq_walk (c : Context) (s : Source) (session : Session) :
    commentStyle.run c s session = (((Scan.lineComments s.text s.delimiter).foldlM
      (markerStep (c.ledger.flag .commentStyle s)) (none, Report.forSource s)).map Prod.snd,
        session) := by
  have hstep (first : Option Scan.Marker) (report : Report) (comment : Scan.LineComment) :
      markerStep (c.ledger.flag .commentStyle s) (first, report) comment =
        ((markerLook first comment).1.foldlM (c.ledger.flag .commentStyle s) report).map
          ((markerLook first comment).2, ·) := by
    cases first with
    | none => rfl
    | some first => rw [markerStep, flagIf_eq]; rfl
  rw [foldlM_eq hstep]
  unfold commentStyle ofText
  simp only [Ledger.report_eq_flag]
  cases Scan.lineComments s.text s.delimiter with
  | nil => rfl
  | cons first rest => rw [found, markerLook, found_markers]; rfl

/-! ## Indentation -/

/-- The wrong character at an index of the indentation. -/
def indentFinding (allowed : Indent) (i : Nat) : Finding :=
  let expected := allowed.name
  ⟨i, s!"Inconsistent use of indentation symbols, expected: {expected}"⟩

/-- Looks at a character and its index, knowing whether only indentation came before on its line. -/
def indentStep (s : Source) (allowed : Indent) : Bool × Report → Char × Nat →
    Except Fault (Bool × Report)
  | (inIndent, report), (c, i) =>
    if endsLine s c then .ok (true, report)
    else if !inIndent || c == allowed.char then .ok (inIndent, report)
    else do
      let report ← flagIf flag (c == allowed.other.char) report (indentFinding allowed i)
      .ok (false, report)

def indentLook (s : Source) (allowed : Indent) (inIndent : Bool) :
    Char × Nat → List Finding × Bool
  | (c, i) =>
    if endsLine s c then ([], true)
    else if !inIndent || c == allowed.char then ([], inIndent)
    else (if c == allowed.other.char then [indentFinding allowed i] else [], false)

theorem found_indents (s : Source) (allowed : Indent) (cs : List Char) :
    ∀ (inIndent : Bool) (i : Nat), found (indentLook s allowed) inIndent (cs.zipIdx i) =
      (wrongIndents s allowed i inIndent cs).map (indentFinding allowed) := by
  induction cs with
  | nil => intro inIndent i; rfl
  | cons c rest ih =>
    intro inIndent i
    rw [List.zipIdx_cons, found, ih, wrongIndents, indentLook]
    split
    · rfl
    · split
      · rfl
      · split <;> rfl

theorem uniformIndent_eq_walk (c : Context) (s : Source) (session : Session) :
    uniformIndent.run c s session = ((s.text.toList.zipIdx.foldlM
      (indentStep (c.ledger.flag .uniformIndent s) s c.settings.allowedIndent)
        (true, Report.forSource s)).map Prod.snd, session) := by
  have hstep (allowed : Indent) (inIndent : Bool) (report : Report) (item : Char × Nat) :
      indentStep (c.ledger.flag .uniformIndent s) s allowed (inIndent, report) item =
        ((indentLook s allowed inIndent item).1.foldlM
          (c.ledger.flag .uniformIndent s) report).map
            ((indentLook s allowed inIndent item).2, ·) := by
    rw [indentStep, indentLook, flagIf_eq]
    split
    · rfl
    · split <;> rfl
  rw [foldlM_eq (hstep c.settings.allowedIndent), found_indents, ← Ledger.report_eq_flag]
  rfl

/-! ## Tabs -/

/-- A tab at an index behind the indentation. -/
def tabFinding (i : Nat) : Finding := ⟨i, "Tab is not in the indentation"⟩

/-- Looks at a character and its index, knowing whether only spaces and tabs came before on its
line. -/
def tabStep (s : Source) : Bool × Report → Char × Nat → Except Fault (Bool × Report)
  | (inIndent, report), (c, i) =>
    if endsLine s c then .ok (true, report)
    else if c == '\t' then do
      let report ← flagIf flag (!inIndent) report (tabFinding i)
      .ok (inIndent, report)
    else .ok (inIndent && c == ' ', report)

def tabLook (s : Source) (inIndent : Bool) : Char × Nat → List Finding × Bool
  | (c, i) =>
    if endsLine s c then ([], true)
    else if c == '\t' then (if !inIndent then [tabFinding i] else [], inIndent)
    else ([], inIndent && c == ' ')

theorem found_tabs (s : Source) (cs : List Char) : ∀ (inIndent : Bool) (i : Nat),
    found (tabLook s) inIndent (cs.zipIdx i) = (strayTabs s i inIndent cs).map tabFinding := by
  induction cs with
  | nil => intro inIndent i; rfl
  | cons c rest ih =>
    intro inIndent i
    rw [List.zipIdx_cons, found, ih, strayTabs, tabLook]
    split
    · rfl
    · split
      · cases inIndent <;> rfl
      · rfl

theorem tabOutsideIndent_eq_walk (c : Context) (s : Source) (session : Session) :
    tabOutsideIndent.run c s session = ((s.text.toList.zipIdx.foldlM
      (tabStep (c.ledger.flag .tabOutsideIndent s) s) (true, Report.forSource s)).map Prod.snd,
        session) := by
  have hstep (inIndent : Bool) (report : Report) (item : Char × Nat) :
      tabStep (c.ledger.flag .tabOutsideIndent s) s (inIndent, report) item =
        ((tabLook s inIndent item).1.foldlM (c.ledger.flag .tabOutsideIndent s) report).map
          ((tabLook s inIndent item).2, ·) := by
    rw [tabStep, tabLook, flagIf_eq]
    split
    · rfl
    · split <;> rfl
  rw [foldlM_eq hstep, found_tabs, ← Ledger.report_eq_flag]
  rfl

/-! ## Imports -/

/-- The groups of imports so far, the latest last, and the names imported. -/
structure Groups where
  kinds : List ImportKind := []
  names : List String := []

namespace Groups

/-- An import goes to the latest group if it is of its kind, and opens a group otherwise. -/
def add (groups : Groups) (m : Import) : Groups where
  kinds := if groups.kinds.getLast? = some m.kind then groups.kinds else groups.kinds ++ [m.kind]
  names := m.name :: groups.names

/-- The kind of an import has a group, and the latest group is of the other kind. -/
def regroups (groups : Groups) (m : Import) : Bool :=
  groups.kinds.contains m.kind && groups.kinds.getLast? != some m.kind

/-- Groups stand for imports: the latest group is of the kind of the latest import, and a kind has a
group if it was imported. -/
structure StandsFor (groups : Groups) (seen : Imported) : Prop where
  latest : groups.kinds.getLast? = seen.kinds.head?
  mem_iff (kind : ImportKind) : kind ∈ groups.kinds ↔ kind ∈ seen.kinds
  names : groups.names = seen.names

theorem standsFor_add {groups : Groups} {seen : Imported} (h : groups.StandsFor seen)
    (m : Import) :
    (groups.add m).StandsFor ⟨m.kind :: seen.kinds, m.name :: seen.names⟩ where
  latest := by
    unfold add
    split
    · assumption
    · exact List.getLast?_concat
  mem_iff kind := by
    unfold add
    split
    · rename_i hlast
      have hmem : m.kind ∈ groups.kinds := List.mem_of_getLast? hlast
      rw [List.mem_cons, ← h.mem_iff]
      refine ⟨.inr, ?_⟩
      rintro (rfl | hkind)
      · exact hmem
      · exact hkind
    · rw [List.mem_append, List.mem_singleton, List.mem_cons, h.mem_iff, or_comm]
  names := by rw [add, h.names]

/-- What is wrong with an import after the groups so far. -/
def findings (groups : Groups) (m : Import) : List Finding :=
  (if groups.regroups m then
      [⟨m.kindStop - m.kind.name.length, "PROTO and MODULE inputs should be in separate groups."⟩]
    else []) ++
  (if groups.names.contains m.name then
      [⟨m.nameStop - m.name.length, s!"\"{m.name}\" is already defined."⟩]
    else [])

/-- Groups decide on an import as the imports that they stand for do. -/
theorem StandsFor.findings_eq {groups : Groups} {seen : Imported} (h : groups.StandsFor seen)
    (m : Import) : groups.findings m = seen.findings m := by
  have hmem : groups.kinds.contains m.kind = seen.kinds.contains m.kind := by
    rw [Bool.eq_iff_iff, List.contains_iff_mem, List.contains_iff_mem, h.mem_iff]
  rw [findings, regroups, hmem, h.latest, h.names]
  rfl

/-- Looks at an `IMPORT`: it does not say what it imports, or its import joins the groups. -/
def look (groups : Groups) (i : Nat) : Option Import → List Finding × Groups
  | none => ([⟨i, "Imports should specify the type 'MODULE' or 'PROTO'."⟩], groups)
  | some m => (groups.findings m, groups.add m)

end Groups

/-- Flags an `IMPORT` that does not say what it imports, or the import that it begins. -/
def flagImport (groups : Groups) (report : Report) (i : Nat) :
    Option Import → Except Fault (Groups × Report)
  | none => do
    let report ← flag report ⟨i, "Imports should specify the type 'MODULE' or 'PROTO'."⟩
    .ok (groups, report)
  | some m => do
    let report ← flagIf flag (groups.regroups m) report
      ⟨m.kindStop - m.kind.name.length, "PROTO and MODULE inputs should be in separate groups."⟩
    let report ← flagIf flag (groups.names.contains m.name) report
      ⟨m.nameStop - m.name.length, s!"\"{m.name}\" is already defined."⟩
    .ok (groups.add m, report)

theorem flagImport_eq (groups : Groups) (report : Report) (i : Nat) (m? : Option Import) :
    flagImport flag groups report i m? =
      ((groups.look i m?).1.foldlM flag report).map ((groups.look i m?).2, ·) := by
  cases m? with
  | none => exact congrArg (Except.map (groups, ·)) (bind_pure _).symm
  | some m =>
    rw [flagImport, Groups.look, Groups.findings, List.foldlM_append, ← flagIf_eq]
    cases flagIf flag (groups.regroups m) report _ with
    | error fault => rfl
    | ok report => exact congrArg (Except.map (groups.add m, ·)) (flagIf_eq flag _ _ _)

/-- Looks at the `IMPORT` at an index, with the groups of the imports before. -/
def importStep (t : Text) : Groups × Report → Nat → Except Fault (Groups × Report)
  | (groups, report), i => flagImport flag groups report i (importAt? t i)

def importLook (t : Text) (groups : Groups) (i : Nat) : List Finding × Groups :=
  groups.look i (importAt? t i)

/-- Groups that stand for the imports before find what these find. -/
theorem found_imports (t : Text) (is : List Nat) : ∀ (groups : Groups) (seen : Imported),
    groups.StandsFor seen → found (importLook t) groups is = importFindings t seen is := by
  induction is with
  | nil => intro groups seen _; rfl
  | cons i rest ih =>
    intro groups seen hseen
    -- rewriting with the equation of `importFindings` would open `importAt?`
    conv => rhs; unfold importFindings
    rw [found, importLook]
    cases importAt? t i with
    | none => exact congrArg (_ :: ·) (ih groups seen hseen)
    | some m =>
      rw [Groups.look, hseen.findings_eq]
      exact congrArg (seen.findings m ++ ·) (ih _ _ (Groups.standsFor_add hseen m))

theorem imports_eq_walk (c : Context) (s : Source) (session : Session) :
    imports.run c s session =
      ((((Scan.code s.text s.delimiter).filter (isImport s.text)).foldlM
        (importStep (c.ledger.flag .imports s) s.text) ({}, Report.forSource s)).map Prod.snd,
          session) := by
  have hstep (groups : Groups) (report : Report) (i : Nat) :
      importStep (c.ledger.flag .imports s) s.text (groups, report) i =
        ((importLook s.text groups i).1.foldlM (c.ledger.flag .imports s) report).map
          ((importLook s.text groups i).2, ·) :=
    flagImport_eq (c.ledger.flag .imports s) groups report i (importAt? s.text i)
  have hnone : Groups.StandsFor {} {} := ⟨rfl, fun _ => .rfl, rfl⟩
  rw [foldlM_eq hstep, found_imports _ _ {} {} hnone, ← Ledger.report_eq_flag]
  rfl

/-! ## Nodes -/

theorem ofNodes_flags (rule : Rule) (detect : Source → Node.Visit → Except Fault (List Finding))
    {c : Context} (hc : c.parserEnabled = true) (s : Source) (session : Session) :
    (ofNodes rule detect).run c s session =
      applyRule (fun v => (detect s v).bind (·.foldlM (c.ledger.flag rule s) (Report.forSource s)))
        rule.name (some rule) c s session := by
  have hreport : c.ledger.report rule s =
      (·.foldlM (c.ledger.flag rule s) (Report.forSource s)) :=
    funext (c.ledger.report_eq_flag rule s)
  rw [← hreport]
  exact if_pos hc

end Check

end SqlStyle
