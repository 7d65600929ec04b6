import SqlStyle.Datum.Reading
import SqlStyle.Rule
import SqlStyle.Source
import SqlStyle.Toolkit.Basic

/-! # Settings

What a user can choose: the dialect, the layout of a document, style preferences, and the rules
switched off for a whole run. Each choice is a field with a name and a type of its own. -/

namespace SqlStyle

/-- The character that indentation is made of. -/
inductive Indent where
  | space
  | tab
deriving Repr, DecidableEq

namespace Indent

def char : Indent → Char
  | space => ' '
  | tab => '\t'

/-- The other one of space and tab. -/
def other : Indent → Indent
  | space => tab
  | tab => space

/-- What messages call it. -/
def name : Indent → String
  | space => "whitespace"
  | tab => "tab"

end Indent

/-- The line limit unless another one is chosen. -/
def defaultLimit : Positive := ⟨100, by decide⟩

structure Settings where
  dialect : Dialect := .bigquery
  /-- The character that ends a line. -/
  lineDelimiter : Char := '\n'
  lineLimit : Positive := defaultLimit
  allowedIndent : Indent := .space
  tabSize : Option Positive := none
  /-- Strings open with a single quote, not a double one. -/
  singleQuote : Bool := true
  /-- Keywords are written in capitals, not in small letters. -/
  upperKeyword : Bool := true
  /-- The names of rules switched off for the whole run. -/
  disabledRules : List String := []
  debug : Bool := false

namespace Settings

/-- The rules switched off for the whole run. Spaces around a name do not matter, and unknown names
switch nothing. -/
def lockedRules (s : Settings) : List Rule :=
  let named := s.disabledRules.filterMap fun name =>
    Rule.find? (String.ofList (Text.trim Text.isSpace name.toList))
  Rule.all.filter (named.contains ·)

/-- A document laid out as the settings say. -/
def source (s : Settings) (text : Text) (filename : Option String) : Source where
  text := text
  filename := filename
  delimiter := [s.lineDelimiter]
  tabSize := s.tabSize.map fun width => width.val

/-! ## Fields -/

inductive Field where
  | dialect
  | lineDelimiter
  | lineLimit
  | allowedIndent
  | tabSize
  | singleQuote
  | upperKeyword
  | disabledRules
  | debug
deriving Repr, DecidableEq

namespace Field

def all : List Field :=
  [dialect, lineDelimiter, lineLimit, allowedIndent, tabSize, singleQuote, upperKeyword,
    disabledRules, debug]

/-- The name under which sources give it a value. -/
def name : Field → String
  | dialect => "dialect"
  | lineDelimiter => "line_delimiter"
  | lineLimit => "line_limit"
  | allowedIndent => "allowed_indent"
  | tabSize => "tab_size"
  | singleQuote => "single_quote"
  | upperKeyword => "upper_keyword"
  | disabledRules => "disabled_rules"
  | debug => "debug"

/-- The type of its values. -/
def Value : Field → Type
  | dialect => Dialect
  | lineDelimiter => Char
  | lineLimit => Positive
  | allowedIndent => Indent
  | tabSize => Option Positive
  | singleQuote => Bool
  | upperKeyword => Bool
  | disabledRules => List String
  | debug => Bool

/-- The value that settings have for it. -/
def get : (f : Field) → Settings → f.Value
  | dialect => Settings.dialect
  | lineDelimiter => Settings.lineDelimiter
  | lineLimit => Settings.lineLimit
  | allowedIndent => Settings.allowedIndent
  | tabSize => Settings.tabSize
  | singleQuote => Settings.singleQuote
  | upperKeyword => Settings.upperKeyword
  | disabledRules => Settings.disabledRules
  | debug => Settings.debug

end Field

/-- The names of the fields. -/
def fieldNames : List String := Field.all.map Field.name

end Settings

end SqlStyle
