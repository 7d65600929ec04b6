import SqlStyle.Check.Keyword
import SqlStyle.Check.Layout
import SqlStyle.Check.Parsing
import SqlStyle.Check.Phrase
import SqlStyle.Check.Tree

/-! # The built-in checks

The complete suite has the parsing check before every check that looks at syntax trees, so that they
all share its parse. -/

namespace SqlStyle.Check

/-- Every built-in check, in the order in which they run. -/
def builtin : List Check :=
  [lineLimit, parserSucceeds, statementSemicolon, letterCase, commentStyle, explicitAlias,
    uniformIndent, tabOutsideIndent, quoteStyle, tableName, windowName, functionName,
      dataTypeName, columnName,
    parameterName, constantName, join, imports, expressionParentheses, countStar, keywordIdentifier]

/-- The built-in checks that look at syntax trees. -/
def treeDependent : List Check := builtin.filter (·.requiresTree)

/-- The built-in check of a rule. -/
def builtin? (rule : Rule) : Option Check := builtin.find? (·.rule == rule)

end SqlStyle.Check
