/-! # Faults

What can stop a computation on a document before it has its answer. A fault never reaches the user
as such: the run that meets it turns it into a failure entry with its message. -/

namespace SqlStyle

/-- What a diagnostic can lack. -/
inductive DiagnosticFlaw where
  /-- Its column is not counted from one. -/
  | columnBelowOne
  /-- No rule stands behind it. -/
  | noRule
deriving Repr, DecidableEq

inductive Fault where
  /-- A look-behind started past the end of the text. -/
  | indexOutOfRange
  /-- A look-behind started past the end of every text. -/
  | indexTooLarge
  /-- A tab met a tab width of zero. -/
  | zeroTabWidth
  /-- A diagnostic lacks what every diagnostic has. -/
  | refusedDiagnostic (flaws : List DiagnosticFlaw)
  /-- An issue outside its document came without a rule. -/
  | issueWithoutRule
  /-- An expression lacks an argument that tells how to read it. -/
  | missingArgument (key : String)
  /-- A value that is no text stands where the kind of an object is named. -/
  | kindWithoutText (type : String)
  /-- A value that is no text stands among the words that name a join. -/
  | wordWithoutText (index : Nat) (type : String)
  /-- A collaborator gave up with a message of its own. -/
  | raised (message : String)
deriving Repr, DecidableEq

namespace Fault

def message : Fault → String
  | indexOutOfRange => "string index out of range"
  | indexTooLarge => "cannot fit 'int' into an index-sized integer"
  | zeroTabWidth => "integer modulo by zero"
  | refusedDiagnostic _ => "a diagnostic has a rule and a column of at least one"
  | issueWithoutRule => "'NoneType' object has no attribute 'value'"
  | missingArgument key => s!"'{key}'"
  | kindWithoutText type => s!"'{type}' object has no attribute 'upper'"
  | wordWithoutText index type => s!"sequence item {index}: expected str instance, {type} found"
  | raised message => message

end Fault

end SqlStyle
