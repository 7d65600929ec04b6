import SqlStyle.Grammar.Build
import SqlStyle.Toolkit.Basic

/-! # The grammar as a toolkit

For a document the grammar gives its lexemes, or says why there are none, and one result per
statement: expressions, a syntax error with details, or a failure of its own. `toolkit` makes of
that the tokens and statements that the checks read. -/

namespace SqlStyle.Grammar

/-- What the grammar says about a syntax error. -/
structure ErrorDetail where
  description : Option String := none
  line : Option Int := none
  column : Option Int := none
  highlight : Option String := none
deriving Repr, DecidableEq

/-- What the grammar answers for one statement. -/
inductive Result where
  | expressions (es : List (Option Expr))
  | syntaxError (text : String) (details : List ErrorDetail)
  | failure (text : String)
  | raised (text : String)

/-- What the grammar answers for a document. -/
structure Answer where
  /-- The lexemes, or why the document has none. -/
  lexemes : Except String (List Lexeme)
  keywords : List String := []
  /-- One result per statement; a missing one has no expressions. -/
  results : List Result := []

/-! ## Tokens -/

/-- The coarse class of a lexeme. -/
def Lexeme.kind (keywords : List String) (l : Lexeme) : TokenKind :=
  if l.isIdentifier then .identifier
  else if l.isKeyword keywords then .keyword
  else .other

/-- The lexeme as a token of a text, in the spelling it has there. -/
def Lexeme.token (keywords : List String) (t : Text) (l : Lexeme) : Token :=
  ⟨l.kind keywords, l.start, l.stop, t.sliceInt l.start l.stop⟩

def tokenizeMessage (text : String) : String := s!"Failed to tokenize SQL: {text}"

/-- The tokens of a document. -/
def Answer.tokenize (a : Answer) (t : Text) : Except TokenError (List Token) :=
  match a.lexemes with
  | .ok lexemes => .ok (lexemes.map (Lexeme.token a.keywords t))
  | .error text => .error (.malformed (tokenizeMessage text))

/-! ## Statements -/

/-- A text that is there and not empty. -/
def present (s : Option String) : Option String := s.filter (!·.isEmpty)

/-- Where a run of lexemes starts. -/
def runStart (run : List Lexeme) : Int := (run.head?.map Lexeme.start).getD 0

/-- Where a run of lexemes ends. -/
def runStop (run : List Lexeme) : Int := (run.getLast?.map Lexeme.stop).getD 0

/-- A syntax error at the lexeme that the first detail points to by line and column, or at the start
of the statement. -/
def syntaxErrorIn (run : List Lexeme) (text : String) (details : List ErrorDetail) : ParseError :=
  let detail := details.head?.getD {}
  let blamed := run.find? fun l => some l.line == detail.line && some l.column == detail.column
  let near := match present detail.highlight with
    | some highlight => s!" near '{highlight}'"
    | none => ""
  { message := s!"Syntax error: {(present detail.description).getD text}{near}"
    position := (blamed.map Lexeme.start).getD (runStart run)
    statementStart := runStart run }

/-- The root of a statement: the tree of the first expression, or an empty node over the whole
statement. -/
def rootOf (run : List Lexeme) (es : List (Option Expr)) : Except Fault Node :=
  match es.findSome? id with
  | some e => e.toNode run
  | none => .ok (.mk .unknown "" "" (runStart run) (runStop run) [])

/-- The statement of a run of lexemes, from the grammar's result for it. -/
def parseRun (run : List Lexeme) (result : Result) : Except ParseStop Statement :=
  match result with
  | .expressions es =>
    match rootOf run es with
    | .ok root => .ok ⟨root, runStart run, runStop run⟩
    | .error fault => .error (.gaveUp fault)
  | .syntaxError text details => .error (.failed (syntaxErrorIn run text details))
  | .failure text =>
    .error (.failed
      { message := s!"Syntax error: {text}", position := runStart run,
        statementStart := runStart run })
  | .raised text => .error (.gaveUp (.raised text))

/-- Parses runs of lexemes in order, up to the first that does not parse. -/
def parseRuns : List (List Lexeme) → List Result → Parse
  | [], _ => { statements := [] }
  | run :: runs, results =>
    match parseRun run (results.head?.getD (.expressions [])) with
    | .error stop => { statements := [], stop := some stop }
    | .ok statement =>
      let rest := parseRuns runs results.tail
      { rest with statements := statement :: rest.statements }

/-- The statements of a document. -/
def Answer.parse (a : Answer) : Parse :=
  match a.lexemes with
  | .ok lexemes => parseRuns (statementRuns lexemes) a.results
  | .error text => { statements := [], stop := some (.failed { message := tokenizeMessage text }) }

/-- The toolkit over an answer for each document. -/
def toolkit (answer : Text → Answer) : Toolkit where
  tokenize t := (answer t).tokenize t
  parse t := (answer t).parse

end SqlStyle.Grammar
