import SqlStyle.Fault
import SqlStyle.Text.Basic
import SqlStyle.Text.Case
import SqlStyle.Tree.Node

/-! # What the checks know of SQL

A toolkit answers two questions about a document: which tokens it has, and which statements. Parsing
gives statements one after the other, and may stop before the end of the document because a
statement does not parse, or because the parser gave up; the statements before that are known. -/

namespace SqlStyle

/-- The SQL dialects a toolkit can be made for. -/
inductive Dialect where
  | bigquery
  | databricks
  | duckdb
  | postgres
  | snowflake
deriving Repr, DecidableEq

namespace Dialect

def all : List Dialect := [bigquery, databricks, duckdb, postgres, snowflake]

def name : Dialect → String
  | bigquery => "bigquery"
  | databricks => "databricks"
  | duckdb => "duckdb"
  | postgres => "postgres"
  | snowflake => "snowflake"

def ofName? (s : String) : Option Dialect := all.find? (·.name == s)

/-- The dialect whose name is written in capitals. -/
def ofCapitals? (s : String) : Option Dialect := all.find? (Text.upper ·.name == s)

end Dialect

/-- The coarse classes of tokens. -/
inductive TokenKind where
  | keyword
  | identifier
  | other
deriving Repr, DecidableEq

namespace TokenKind

def name : TokenKind → String
  | keyword => "keyword"
  | identifier => "identifier"
  | other => "other"

def ofName? (s : String) : Option TokenKind := [keyword, identifier, other].find? (·.name == s)

end TokenKind

/-- A token with its range of offsets and its spelling in the text. -/
structure Token where
  kind : TokenKind
  start : Int
  stop : Int
  text : String
deriving Repr, DecidableEq

/-- Why a document has no tokens. -/
inductive TokenError where
  /-- The text cannot be split into tokens. -/
  | malformed (message : String)
  /-- The tokenizer gave up. -/
  | gaveUp (fault : Fault)
deriving Repr, DecidableEq

/-- A statement that does not parse, with the offset that is to blame. -/
structure ParseError where
  message : String
  position : Int := 0
  statementStart : Int := 0
deriving Repr, DecidableEq

/-- Why parsing stopped before the end of the document. -/
inductive ParseStop where
  | failed (error : ParseError)
  | gaveUp (fault : Fault)
deriving Repr, DecidableEq

/-- The statements of a document up to where parsing stopped. -/
structure Parse where
  statements : List Statement
  stop : Option ParseStop := none

structure Toolkit where
  tokenize : Text → Except TokenError (List Token)
  parse : Text → Parse

/-- The toolkit that finds neither tokens nor statements in any document. -/
def Toolkit.empty : Toolkit where
  tokenize _ := .ok []
  parse _ := { statements := [] }

end SqlStyle
