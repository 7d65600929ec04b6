/-! # Kinds of syntax nodes

The kinds the checks tell apart. Whatever they do not look at is `unknown`. -/

namespace SqlStyle

inductive Kind where
  | select
  | create
  | insert
  | update
  | delete
  | drop
  | command
  | withClause
  | cte
  | fromClause
  | join
  | whereClause
  | group
  | having
  | order
  | table
  | schema
  | column
  | columnDef
  | star
  | aliased
  | tableAlias
  | identifier
  | literal
  | conjunction
  | disjunction
  | paren
  | function
  | subquery
  | window
  | dataType
  | functionDeclaration
  | unknown
deriving Repr, DecidableEq

namespace Kind

def all : List Kind :=
  [select, create, insert, update, delete, drop, command, withClause, cte, fromClause, join,
    whereClause, group, having, order, table, schema, column, columnDef, star, aliased, tableAlias,
    identifier, literal, conjunction, disjunction, paren, function, subquery, window, dataType,
    functionDeclaration, unknown]

def name : Kind → String
  | select => "select"
  | create => "create"
  | insert => "insert"
  | update => "update"
  | delete => "delete"
  | drop => "drop"
  | command => "command"
  | withClause => "with"
  | cte => "cte"
  | fromClause => "from"
  | join => "join"
  | whereClause => "where"
  | group => "group"
  | having => "having"
  | order => "order"
  | table => "table"
  | schema => "schema"
  | column => "column"
  | columnDef => "column_def"
  | star => "star"
  | aliased => "alias"
  | tableAlias => "table_alias"
  | identifier => "identifier"
  | literal => "literal"
  | conjunction => "and"
  | disjunction => "or"
  | paren => "paren"
  | function => "function"
  | subquery => "subquery"
  | window => "window"
  | dataType => "data_type"
  | functionDeclaration => "function_declaration"
  | unknown => "unknown"

def ofName? (s : String) : Option Kind := all.find? (·.name == s)

/-- `AND` or `OR`. -/
def isConnective (k : Kind) : Bool := k == conjunction || k == disjunction

end Kind

end SqlStyle
