import SqlStyle.Check.Dispatch
import SqlStyle.Name

/-! # Checks of keywords

A keyword of the token stream may stand where the parser saw an identifier. Such a keyword is a name
and has to be quoted; every other keyword has to be written in the preferred letter case. -/

namespace SqlStyle.Check

/-- The keywords of a document. A text that cannot be split into tokens has none. -/
def keywordsOf (c : Context) (s : Source) : Except Fault (List Token) :=
  match c.toolkit.tokenize s.text with
  | .ok tokens => .ok (tokens.filter (·.kind == .keyword))
  | .error (.malformed _) => .ok []
  | .error (.gaveUp fault) => .error fault

/-- Reports on the keywords of a document, given the starts of its identifiers. Without keywords the
document is not parsed. -/
def reportKeywords (rule : Rule) (detect : List Int → Token → List Finding)
    (c : Context) (s : Source) (session : Session) : Except Fault Report × Session :=
  match keywordsOf c s with
  | .error fault => (.error fault, session)
  | .ok [] => (.ok (Report.forSource s), session)
  | .ok keywords =>
    match session.statements c.toolkit s.text with
    | (.error fault, session) => (.error fault, session)
    | (.ok statements, session) =>
      (c.ledger.report rule s (keywords.flatMap (detect (identifierStarts statements))), session)

/-- A keyword in the preferred letter case. -/
def isConsistent (upper : Bool) (text : String) : Bool :=
  if upper then Name.isAllCaps text else Name.isLowerSnakeCase text

/-- What is wrong with a keyword that is no name: it is not in the preferred letter case. -/
def wrongCase (upper : Bool) (starts : List Int) (token : Token) : List Finding :=
  let case := if upper then "uppercase" else "lowercase"
  if starts.contains token.start || isConsistent upper token.text then []
  else [⟨token.start, s!"Keyword '{token.text}' should be all {case}"⟩]

def letterCase : Check where
  rule := .letterCase
  run c s session := reportKeywords .letterCase (wrongCase c.settings.upperKeyword) c s session

/-- A keyword that is a name has to be quoted. -/
def bareKeyword (starts : List Int) (token : Token) : List Finding :=
  if starts.contains token.start then
    [⟨token.start, s!"Identifier `{token.text}` is an SQL keyword. " ++
      "Change the name or escape with backticks (`)"⟩]
  else []

def keywordIdentifier : Check where
  rule := .keywordIdentifier
  requiresTree := true
  run c s session :=
    if c.parserEnabled then reportKeywords .keywordIdentifier bareKeyword c s session
    else (.ok (Report.forSource s), session)

end SqlStyle.Check
