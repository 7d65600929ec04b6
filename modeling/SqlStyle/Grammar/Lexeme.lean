import SqlStyle.Text.Case

/-! # Lexemes

A lexeme is a token as the grammar gives it, with its type, its text without quotes, its line and
column, and the offsets of its first and last character. Statements are the runs of lexemes between
semicolons. -/

namespace SqlStyle.Grammar

structure Lexeme where
  type : String
  text : String
  line : Int
  column : Int
  start : Int
  /-- The offset of the last character. -/
  last : Int
deriving Repr, DecidableEq

namespace Lexeme

/-- The offset just past the lexeme. -/
def stop (l : Lexeme) : Int := l.last + 1

def isString (l : Lexeme) : Bool :=
  ["STRING", "NATIONAL_STRING", "RAW_STRING", "BYTE_STRING", "HEX_STRING", "BIT_STRING",
    "HEREDOC_STRING", "UNICODE_STRING"].contains l.type

def isNumber (l : Lexeme) : Bool := l.type == "NUMBER"

def isLiteral (l : Lexeme) : Bool := l.isString || l.isNumber

def isIdentifier (l : Lexeme) : Bool := l.type == "VAR" || l.type == "IDENTIFIER"

def isSemicolon (l : Lexeme) : Bool := l.type == "SEMICOLON"

/-- The words of the lexeme in upper case with single spaces between them. -/
def normalized (l : Lexeme) : String :=
  " ".intercalate ((Text.words Text.isSpace (Text.upper l.text).toList).map String.ofList)

/-- The lexeme spells a keyword. -/
def isKeyword (keywords : List String) (l : Lexeme) : Bool :=
  !l.isIdentifier && !l.isLiteral && l.text.toList.any Text.isLetter &&
    keywords.contains l.normalized

end Lexeme

/-- The lexemes up to the first semicolon, and those of each statement after it. -/
def splitRuns : List Lexeme → List Lexeme × List (List Lexeme)
  | [] => ([], [])
  | l :: rest =>
    let (run, runs) := splitRuns rest
    if l.isSemicolon then ([], run :: runs) else (l :: run, runs)

/-- The statements of a document as runs of lexemes, empty ones left out. -/
def statementRuns (lexemes : List Lexeme) : List (List Lexeme) :=
  let (run, runs) := splitRuns lexemes
  (run :: runs).filter (!·.isEmpty)

end SqlStyle.Grammar
