import SqlStyle.Datum.Reading
import SqlStyle.Report

/-! # Reports as data

A report is written as a table with a list of diagnostics and one of failures. A single diagnostic
or failure is read back from the entries of its table, with every mistake in them found. -/

namespace SqlStyle

/-- A text, or null. -/
def Datum.ofText? (s : Option String) : Datum := s.elim .null .text

/-- Reads an entry that has to be there. -/
def Entries.required {α : Type} (entries : Entries) (name : String)
    (read : Datum → Except Complaint α) : Checked α :=
  Checked.ofField name ((entries.lookup name).elim (.error .missing) read)

/-- Reads an entry that may be null or left out. -/
def Entries.optional {α : Type} (entries : Entries) (name : String)
    (read : Datum → Except Complaint α) : Checked (Option α) :=
  Checked.ofField name ((entries.lookup name).elim (.ok none) (Datum.readOptional read))

namespace Diagnostic

/-- The diagnostic that the entries of a table describe. -/
def ofEntries (entries : Entries) : Checked Diagnostic :=
  let place := Checked.both (entries.required "byte_offset" (Datum.readAtLeast 0))
    (Checked.both (entries.required "line" (Datum.readAtLeast 1))
      (entries.required "column" (Datum.readAtLeast 1)))
  let words := Checked.both (entries.required "rule" (Datum.readMember Rule.ofName?))
    (Checked.both (entries.required "message" Datum.readText)
      (entries.optional "filename" Datum.readText))
  let diagnostic : Checked Diagnostic := (Checked.both place words).map fun
    | ((offset, line, column), (rule, message, filename)) =>
      { rule, offset, line, column, message, filename }
  diagnostic.sorted

def toDatum (d : Diagnostic) : Datum :=
  .table [("rule", .text d.rule.name), ("byte_offset", .int d.offset), ("line", .int d.line),
    ("column", .int d.column), ("message", .text d.message), ("filename", .ofText? d.filename)]

end Diagnostic

namespace Failure

/-- The failure that the entries of a table describe. -/
def ofEntries (entries : Entries) : Checked Failure :=
  let words := Checked.both (entries.required "message" Datum.readText)
    (Checked.both (entries.optional "rule" (Datum.readMember Rule.ofName?))
      (entries.optional "filename" Datum.readText))
  let failure : Checked Failure := words.map fun
    | (message, rule, filename) => { message, rule, filename }
  failure.sorted

def toDatum (f : Failure) : Datum :=
  .table [("message", .text f.message), ("rule", .ofText? (f.rule.map Rule.name)),
    ("filename", .ofText? f.filename)]

end Failure

namespace Report

def toDatum (r : Report) : Datum :=
  .table [("filename", .ofText? r.filename),
    ("diagnostics", .list (r.diagnostics.map Diagnostic.toDatum)),
    ("failures", .list (r.failures.map Failure.toDatum))]

end Report

end SqlStyle
