import SqlStyle.Rule
import SqlStyle.Source

/-! # Reports

A report collects what was found in one document: diagnostics, each with its position, and failures
that belong to no position. `add` puts a finding into the report, as a diagnostic if its offset lies
in the document and as a failure otherwise. Reports are merged by appending and sorted, stably, by
position. -/

namespace SqlStyle

/-- One issue at a position of a document. -/
structure Diagnostic where
  rule : Rule
  offset : Nat
  line : Nat
  column : Nat
  message : String
  filename : Option String := none
deriving Repr, DecidableEq

/-- A failure that belongs to no single position. -/
structure Failure where
  message : String
  rule : Option Rule := none
  filename : Option String := none
deriving Repr, DecidableEq

/-- How a document's name is put in front of a line about it. -/
def filenameLabel : Option String → String
  | none => ""
  | some name => if name.isEmpty then "" else s!"{name}:"

def Diagnostic.render (d : Diagnostic) : String :=
  s!"{filenameLabel d.filename}In line {d.line}, column {d.column}: {d.message} [{d.rule.name}]"

def Failure.render (f : Failure) : String :=
  let label := match f.rule with
    | none => ""
    | some rule => s!" [{rule.name}]"
  s!"{filenameLabel f.filename}{f.message}{label}"

structure Report where
  filename : Option String := none
  diagnostics : List Diagnostic := []
  failures : List Failure := []
deriving Repr, DecidableEq

namespace Report

/-- The empty report of a document. -/
def forSource (s : Source) : Report := { filename := s.filename }

/-- Neither diagnostics nor failures. -/
def isClean (r : Report) : Bool := r.diagnostics.isEmpty && r.failures.isEmpty

/-- Records a failure. -/
def fail (r : Report) (message : String) (rule : Option Rule) : Report :=
  { r with failures := r.failures ++ [{ message, rule, filename := r.filename }] }

/-- Records a diagnostic at a position. It needs a rule and a column of at least one. -/
def addAt (r : Report) (rule : Option Rule) (s : Source) (offset : Int) (p : Position)
    (message : String) :
    Except Fault Report :=
  match rule with
  | some rule =>
    if 0 < p.column then
      .ok { r with diagnostics := r.diagnostics ++
        [{ rule, offset := offset.toNat, line := p.line, column := p.column.toNat, message,
           filename := s.filename }] }
    else .error (.refusedDiagnostic [.columnBelowOne])
  | none =>
    .error (.refusedDiagnostic (if 0 < p.column then [.noRule] else [.columnBelowOne, .noRule]))

/-- Records an issue at an offset of a document, of a rule or of none: a diagnostic there, or a
failure if the offset is outside. Neither can do without a rule. -/
def addOf (r : Report) (rule : Option Rule) (s : Source) (offset : Int) (message : String) :
    Except Fault Report :=
  match s.translate offset with
  | .ok p => r.addAt rule s offset p message
  | .error (.outside o n) =>
    if rule.isSome then .ok (r.fail s!"{(PositionError.outside o n).message}: {message}" rule)
    else .error .issueWithoutRule
  | .error .zeroTabWidth => .error .zeroTabWidth

/-- Records an issue of a rule at an offset of a document. -/
def add (r : Report) (rule : Rule) (s : Source) (offset : Int) (message : String) :
    Except Fault Report :=
  r.addOf (some rule) s offset message

/-- Appends another report's entries. -/
def merge (r other : Report) : Report :=
  { r with
    diagnostics := r.diagnostics ++ other.diagnostics
    failures := r.failures ++ other.failures }

/-- `a` does not stand after `b` in the document. -/
def positionLe (a b : Diagnostic) : Bool :=
  decide (a.line < b.line) || (a.line == b.line && decide (a.column ≤ b.column))

/-- Sorts the diagnostics by position, keeping the order of those at one position. -/
def sort (r : Report) : Report := { r with diagnostics := r.diagnostics.mergeSort positionLe }

/-- The report as lines of text: failures first, then diagnostics. -/
def render (r : Report) : List String :=
  r.failures.map Failure.render ++ r.diagnostics.map Diagnostic.render

end Report

end SqlStyle
