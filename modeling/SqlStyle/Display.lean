import SqlStyle.Registry
import SqlStyle.Text.Markup
import SqlStyle.Text.Quoted

/-! # What is shown beside the reports

Status lines, the table of rules and the parse trees of a document, as items for a console. Lines,
labels and cells are console markup, so that texts taken from a document are escaped in them. -/

namespace SqlStyle

/-- One thing shown on the console. -/
inductive Display where
  /-- A line of markup. -/
  | line (markup : String)
  /-- A tree in a frame: the labels of its nodes in document order, each with its depth. -/
  | tree (title : String) (labels : List (Nat × String))
  | table (title : String) (columns : List String) (rows : List (List String))
deriving Repr, DecidableEq

namespace Display

/-- A line in a colour or weight. -/
def styled (style text : String) : Display := line s!"[{style}]{text}[/{style}]"

/-! ## The summary of a run -/

/-- The line that closes a run: the verdict, and counts of documents, diagnostics and failures. -/
def summary (reports : List Report) (elapsed : String) : Display :=
  let verdict := if reports.all Report.isClean then "[green]PASSED[/green]" else "[red]FAILED[/red]"
  let diagnostics := (reports.flatMap Report.diagnostics).length
  let failures := (reports.flatMap Report.failures).length
  line (s!"sqllint {verdict}: {reports.length} file(s) checked, " ++
    s!"{diagnostics} diagnostic(s), {failures} failure(s)  ({elapsed}ms)")

/-! ## The table of rules -/

/-- Whether the check of a rule looks at syntax trees; a dash if the rule has no check. -/
def needsTree (registry : Registry) (rule : Rule) : String :=
  match registry.get? rule with
  | none => "-"
  | some check => if check.requiresTree then "[cyan]yes[/cyan]" else "no"

/-- Every rule, with what its check needs. -/
def rules (registry : Registry) : Display :=
  table "Rules" ["Rule", "Needs AST", "Description"]
    (Rule.all.map fun rule => [rule.name, needsTree registry rule, rule.description])

/-! ## Parse trees -/

/-- The text of a node on one line, cut short if it is long. -/
def snippet (t : Text) (n : Node) : String :=
  let chars := (t.sliceInt n.start n.stop).toList.map fun c => if c == '\n' then ' ' else c
  String.ofList (if 40 < chars.length then chars.take 37 ++ ['.', '.', '.'] else chars)

/-- The label of a node: its kind, and whatever else is known of it. -/
def label (t : Text) (n : Node) : String :=
  let name := if n.name.isEmpty then "" else s!" {Text.escapeMarkup n.name}"
  let introduced := if n.aliasName.isEmpty then
    "" else s!" [dim]AS[/dim] {Text.escapeMarkup n.aliasName}"
  let place := if n.isPositioned then
      s!"  [dim]{n.start}..{n.stop} {Text.escapeMarkup (Text.quoted (snippet t n))}[/dim]"
    else ""
  s!"[bold]{n.kind.name}[/bold]{name}{introduced}{place}"

/-- The tree of a statement, which is the `index`-th of its document. -/
def statement (t : Text) (index : Nat) (s : Statement) : Display :=
  tree s!"Statement {index} [{s.start}..{s.stop}]"
    (s.visits.map fun v => (v.depth, label t v.node))

/-- The trees of a document. -/
def statements (t : Text) : List Statement → List Display
  | [] => [styled "dim" "No statements found."]
  | ss => ss.zipIdx.map fun p => statement t (p.2 + 1) p.1

end Display

end SqlStyle
