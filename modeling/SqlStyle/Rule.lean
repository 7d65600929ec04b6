/-! # Rules

Every diagnostic is reported under one of a closed set of rules. A rule's name is what directives,
settings and rendered diagnostics write; the order of `Rule.all` is the order in which rules are
listed. -/

namespace SqlStyle

inductive Rule where
  | parserFailed
  | noLint
  | lineLimit
  | statementSemicolon
  | letterCase
  | commentStyle
  | explicitAlias
  | uniformIndent
  | tabOutsideIndent
  | quoteStyle
  | tableName
  | windowName
  | functionName
  | dataTypeName
  | columnName
  | parameterName
  | constantName
  | join
  | imports
  | expressionParentheses
  | countStar
  | keywordIdentifier
deriving Repr, DecidableEq

namespace Rule

/-- Every rule, in listing order. -/
def all : List Rule :=
  [parserFailed, noLint, lineLimit, statementSemicolon, letterCase, commentStyle, explicitAlias,
    uniformIndent, tabOutsideIndent, quoteStyle, tableName, windowName, functionName,
      dataTypeName, columnName,
    parameterName, constantName, join, imports, expressionParentheses, countStar, keywordIdentifier]

/-- The name a rule goes by in directives, settings and output. -/
def name : Rule → String
  | parserFailed => "parser-failed"
  | noLint => "nolint"
  | lineLimit => "line-limit-exceed"
  | statementSemicolon => "statement-semicolon"
  | letterCase => "consistent-letter-case"
  | commentStyle => "consistent-comment-style"
  | explicitAlias => "alias"
  | uniformIndent => "uniform-indent"
  | tabOutsideIndent => "not-indent-tab"
  | quoteStyle => "single-or-double-quote"
  | tableName => "table-name"
  | windowName => "window-name"
  | functionName => "function-name"
  | dataTypeName => "data-type-name"
  | columnName => "column-name"
  | parameterName => "parameter-name"
  | constantName => "constant-name"
  | join => "join"
  | imports => "imports"
  | expressionParentheses => "expression-parentheses"
  | countStar => "count-star"
  | keywordIdentifier => "keyword-identifier"

def description : Rule → String
  | parserFailed => "The document must parse."
  | noLint => "NOLINT / LINT directives must name known rules."
  | lineLimit => "Lines must not exceed the configured length."
  | statementSemicolon => "The last statement must end with a semicolon."
  | letterCase => "Keywords use one letter case."
  | commentStyle => "Single-line comments use one marker."
  | explicitAlias => "Aliases are introduced with AS."
  | uniformIndent => "Indentation uses only the allowed character."
  | tabOutsideIndent => "Tabs appear only in indentation."
  | quoteStyle => "String literals use the preferred quote."
  | tableName => "Created tables are named in UpperCamelCase."
  | windowName => "Named windows are UpperCamelCase."
  | functionName => "Created functions are named in UpperCamelCase."
  | dataTypeName => "Simple data types are written in all caps."
  | columnName => "Column aliases are named in lower_snake_case."
  | parameterName => "Function parameters are lower_snake_case, table parameters UpperCamelCase."
  | constantName => "Created constants are named in CAPS_SNAKE_CASE."
  | join => "Joins state their type explicitly."
  | imports => "Imports are typed, grouped and unique."
  | expressionParentheses => "AND and OR are not mixed without parentheses."
  | countStar => "COUNT(*) is used instead of COUNT(1)."
  | keywordIdentifier => "Identifiers are not bare keywords."

/-- The rule with exactly this name. -/
def ofName? (s : String) : Option Rule := all.find? (·.name == s)

/-- Older spellings that are still accepted where a user names a rule. -/
def olderNames : List (String × Rule) := [("expression-parantheses", expressionParentheses)]

/-- The rule a user means by a name. -/
def find? (s : String) : Option Rule := (ofName? s).or (olderNames.lookup s)

theorem mem_all (r : Rule) : r ∈ all := by cases r <;> decide

end Rule

end SqlStyle
