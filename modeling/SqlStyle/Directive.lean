import SqlStyle.Ledger.Basic
import SqlStyle.Report
import SqlStyle.Scan.Code
import SqlStyle.Text.Class

/-! # Directives in comments

A line comment of the form `NOLINT(rule, rule) anything` switches the named rules off from the end
of the comment on, and `LINT(…)` switches them back on. Comments of any other shape are ordinary
comments. A name that no rule goes by switches nothing and is reported. -/

namespace SqlStyle

structure Directive where
  direction : Direction
  names : List String
deriving Repr, DecidableEq

namespace Directive

/-- The words a directive can start with. -/
def verbs : List (List Char × Direction) :=
  [(['N', 'O', 'L', 'I', 'N', 'T'], .disable), (['L', 'I', 'N', 'T'], .enable)]

/-- What is left of `cs` after `word`. -/
def afterWord? : List Char → List Char → Option (List Char)
  | [], cs => some cs
  | w :: word, c :: cs => if w = c then afterWord? word cs else none
  | _ :: _, [] => none

/-- The verb a text starts with, and the rest. -/
def verb? (cs : List Char) : Option (Direction × List Char) :=
  verbs.findSome? fun v => (afterWord? v.1 cs).map fun rest => (v.2, rest)

/-- A character of a rule name. -/
def isNameChar (c : Char) : Bool := Text.isWordChar c || c == '-'

/-- A name is a non-empty run of word characters and hyphens. -/
def isName (cs : List Char) : Bool := !cs.isEmpty && cs.all isNameChar

/-- The text between the parentheses that `cs` starts with. -/
def parenthesized? : List Char → Option (List Char)
  | '(' :: cs =>
    if (cs.dropWhile fun c => c != '(' && c != ')').head? = some ')' then
      some (cs.takeWhile fun c => c != '(' && c != ')')
    else none
  | _ => none

/-- Reads the text of a line comment as a directive. -/
def parse? (comment : String) : Option Directive := do
  let (direction, rest) ← verb? (comment.toList.dropWhile Text.isSpace)
  let inside ← parenthesized? (rest.dropWhile Text.isSpace)
  let names := (Text.splitAll (· == ',') inside).map (Text.trim Text.isSpace)
  if names.all isName then some ⟨direction, names.map String.ofList⟩ else none

/-- A directive together with the offset from which it holds. -/
structure Placed where
  directive : Directive
  position : Nat
deriving Repr, DecidableEq

/-- The directives of a document in order, each placed at the end of its comment. -/
def inSource (s : Source) : List Placed :=
  (Scan.lineComments s.text s.delimiter).filterMap fun comment =>
    (parse? (comment.body s.text)).map (⟨·, comment.stop⟩)

/-- The switching events a directive asks for. -/
def Placed.events (d : Placed) : List Event :=
  d.directive.names.filterMap fun name =>
    (Rule.find? name).map fun rule => ⟨d.position, rule, d.directive.direction⟩

/-- The names of a directive that no rule goes by. -/
def Placed.unknownNames (d : Placed) : List String :=
  d.directive.names.filter fun name => (Rule.find? name).isNone

/-- The switching events of a document in the order in which they are found. -/
def events (s : Source) : List Event := (inSource s).flatMap Placed.events

/-- The report on names that no rule goes by, empty if they are not to be reported. -/
def unknownReport (s : Source) (reportUnknown : Bool) : Except Fault Report :=
  let findings := if reportUnknown then
      (inSource s).flatMap fun d => d.unknownNames.map fun name => (d.position, name)
    else []
  findings.foldlM (fun report f =>
    report.add .noLint s f.1 s!"Unknown NOLINT error category: '{f.2}'") (Report.forSource s)

/-- The ledger of a document. -/
def ledger (s : Source) (locked : List Rule) : Except OutOfOrder Ledger :=
  Ledger.ofEvents (events s) locked

/-! ## One pass -/

/-- The names in the directives of a document, in order, each with its directive. -/
def mentions (s : Source) : List (Placed × String) :=
  (inSource s).flatMap fun d => d.directive.names.map fun name => (d, name)

/-- Takes one name: a request if a rule goes by it, and an issue otherwise. -/
def takeName (s : Source) (reportUnknown : Bool) (found : List Event × Report)
    (m : Placed × String) : Except Fault (List Event × Report) :=
  match Rule.find? m.2 with
  | some rule => .ok (found.1 ++ [⟨m.1.position, rule, m.1.directive.direction⟩], found.2)
  | none =>
    if reportUnknown then
      (found.2.add .noLint s m.1.position s!"Unknown NOLINT error category: '{m.2}'").map
        (found.1, ·)
    else .ok found

/-- The requests of a document and the report on its unknown names, from one pass over its
directives. -/
def scan (s : Source) (reportUnknown : Bool) : Except Fault (List Event × Report) :=
  (mentions s).foldlM (takeName s reportUnknown) ([], Report.forSource s)

/-- The ledger of a document and the report on its unknown names. -/
def build (s : Source) (locked : List Rule) (reportUnknown : Bool) :
    Except Fault (Ledger × Report) := do
  let (found, report) ← scan s reportUnknown
  let ledger ← (Ledger.ofEvents found locked).mapError fun e => .raised e.message
  .ok (ledger, report)

end Directive

end SqlStyle
