import SqlStyle.Text.Quoted

/-! # Expressions as the grammar gives them

The grammar answers a statement with a tree of expressions. An expression has a class and named
arguments; an argument is a plain value, another expression, or a list. Source offsets are not part
of it. A class declares its argument names in the order of the grammar and belongs to families, by
which expressions of similar classes are treated alike. An expression can be asked for its name, its
alias and the text of an argument; how it comes to an answer is up to the grammar. -/

namespace SqlStyle.Grammar

/-- The families of expression classes that are told apart. -/
inductive Family where
  | function
  | identifier
  | literal
  | star
  | null
  | boolean
  | dataType
  | join
  | create
  | aliased
deriving Repr, DecidableEq

/-- A class of expressions. -/
structure ExprClass where
  name : String
  /-- The declared argument names, in the order of the grammar. -/
  keys : List String
  families : List Family
deriving Repr, DecidableEq

/-- What an expression can be asked for. -/
inductive Query where
  | name
  | aliasName
  /-- The text of an argument. -/
  | text (key : String)
deriving Repr, DecidableEq

mutual

inductive Expr where
  /-- `answers` is what the expression says of itself. -/
  | mk (cls : ExprClass) (args : List (String × Value)) (answers : List (Query × Value))

inductive Value where
  | null
  | bool (b : Bool)
  | int (n : Int)
  | text (s : String)
  | expr (e : Expr)
  /-- A member of the closed set of data types. -/
  | type (name : String)
  | list (values : List Value)

end

namespace Value

/-- Whether a value counts as true. -/
def isTruthy : Value → Bool
  | null => false
  | bool b => b
  | int n => n != 0
  | text s => !s.isEmpty
  | expr _ => true
  | type _ => true
  | list values => !values.isEmpty

/-- What messages call the type of a value. -/
def typeName : Value → String
  | null => "NoneType"
  | bool _ => "bool"
  | int _ => "int"
  | text _ => "str"
  | expr (.mk cls _ _) => cls.name
  | type _ => "Type"
  | list _ => "list"

mutual

/-- A value as an item of a list that is spelled out. Expressions are left blank. -/
def listed : Value → String
  | null => "None"
  | bool b => if b then "True" else "False"
  | int n => s!"{n}"
  | text s => Text.quoted s
  | expr _ => ""
  | type name => s!"<Type.{name}: {Text.quoted name}>"
  | list values => "[" ++ ", ".intercalate (listedEach values) ++ "]"

/-- Values as items of a list that is spelled out. -/
def listedEach : List Value → List String
  | [] => []
  | v :: rest => v.listed :: listedEach rest

end

/-- A value spelled out on its own: a text without quotes, a data type by its name. -/
def spelled : Value → String
  | text s => s
  | type name => s!"Type.{name}"
  | v => v.listed

/-- The text of a value; what is no text counts as empty. -/
def asText : Value → String
  | text s => s
  | _ => ""

def asExpr? : Value → Option Expr
  | expr e => some e
  | _ => none

/-- The expressions of an argument: itself, or those in its list. -/
def exprs : Value → List Expr
  | expr e => [e]
  | list values => values.filterMap asExpr?
  | _ => []

end Value

namespace Expr

def cls : Expr → ExprClass
  | mk cls _ _ => cls

def args : Expr → List (String × Value)
  | mk _ args _ => args

def answers : Expr → List (Query × Value)
  | mk _ _ answers => answers

/-- The expression's class belongs to a family. -/
def isA (e : Expr) (f : Family) : Bool := e.cls.families.contains f

/-- An argument; a missing one is null. -/
def arg (e : Expr) (key : String) : Value := (e.args.lookup key).getD .null

/-- What an expression answers. It should be a text, but need not be; without an answer it is
empty. -/
def ask (e : Expr) (q : Query) : Value := (e.answers.lookup q).getD (.text "")

/-- The name of an expression. -/
def name (e : Expr) : String := (e.ask .name).asText

/-- The name of an expression, spelled out if it is no text. -/
def spelledName (e : Expr) : String :=
  let value := e.ask .name
  if value.isTruthy then value.spelled else ""

/-- The alias of an expression. -/
def aliasName (e : Expr) : String := (e.ask .aliasName).asText

/-- The arguments of the classes whose declared order is not the written one. -/
def writtenFirst : String → List String
  | "CTE" => ["alias", "this"]
  | "Column" => ["catalog", "db", "table", "this"]
  | "Table" => ["catalog", "db", "this", "alias"]
  | _ => []

/-- The argument names in the order in which the arguments are written. -/
def writtenKeys (e : Expr) : List String :=
  let first := writtenFirst e.cls.name
  let declared := first ++ e.cls.keys.filter (!first.contains ·)
  declared ++ (e.args.map Prod.fst).filter (!declared.contains ·)

/-- The expressions right below an expression, in the order in which they are written. -/
def children (e : Expr) : List Expr := e.writtenKeys.flatMap fun key => (e.arg key).exprs

end Expr

end SqlStyle.Grammar
