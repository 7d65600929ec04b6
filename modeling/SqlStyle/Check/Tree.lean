import SqlStyle.Check.Dispatch
import SqlStyle.Name
import SqlStyle.Scan.Word
import SqlStyle.Text.Case

/-! # Checks of the syntax tree

Aliases, names of tables, windows, functions, data types, columns and parameters, joins, and mixed
connectives. Each looks at one node and its parent. -/

namespace SqlStyle.Check

/-- One issue, if there is one. -/
def issueIf (wrong : Bool) (offset : Int) (message : String) : List Finding :=
  if wrong then [⟨offset, message⟩] else []

/-- The kind of the node above. -/
def parentKind? (v : Node.Visit) : Option Kind := v.parent.map Node.kind

/-- An identifier of this name with a place in the text. -/
def isIdentifierNamed (name : String) (n : Node) : Bool :=
  n.kind == .identifier && n.name == name && n.isPositioned

/-- The first child that is an identifier of this name. -/
def firstIdentifier? (n : Node) (name : String) : Option Node :=
  n.children.find? (isIdentifierNamed name)

/-- The last child that is an identifier of this name. -/
def lastIdentifier? (n : Node) (name : String) : Option Node :=
  n.children.reverse.find? (isIdentifierNamed name)

/-! ## Aliases -/

/-- The identifier of the alias that a node introduces. Names of common table expressions are
none. -/
def introducedAlias? (v : Node.Visit) : Option Node :=
  match v.node.kind with
  | .aliased => lastIdentifier? v.node v.node.aliasName
  | .tableAlias =>
    if parentKind? v == some .cte then none else firstIdentifier? v.node v.node.name
  | _ => none

/-- The word before the identifier of an alias is `AS`. -/
def aliasRule (s : Source) (v : Node.Visit) : Except Fault (List Finding) :=
  match introducedAlias? v with
  | none => .ok []
  | some identifier => do
    let word ← Scan.previousWord s.text identifier.start.toNat
    let isAs := Text.upper ((word.map Prod.fst).getD "") == "AS"
    .ok (issueIf (!isAs) identifier.start "Always use AS keyword before aliases")

def explicitAlias : Check := ofNodes .explicitAlias aliasRule

/-! ## Names -/

def tableName : Check := ofNodes .tableName fun _ v =>
  let identifier? := if v.node.kind == .create && v.node.name == "TABLE" then
      (v.node.find? .table).bind fun table => firstIdentifier? table table.name
    else none
  match identifier? with
  | none => .ok []
  | some identifier =>
    .ok (issueIf (!Name.isUpperCamelCase identifier.name) identifier.start
      "Table names or table aliases should be UpperCamelCase.")

/-- The name of a window defined in a clause of its own. A window function in the select list leads
with the function instead. -/
def windowName : Check := ofNodes .windowName fun _ v =>
  if v.node.kind == .window && parentKind? v == some .select then
    match v.node.children.head? with
    | none => .ok []
    | some name =>
      .ok (issueIf (name.kind == .identifier && name.isPositioned &&
        !Name.isUpperCamelCase name.name)
        name.start "Window names should be UpperCamelCase.")
  else .ok []

/-- The name of a declared function; of a qualified name only the last part counts. -/
def functionName : Check := ofNodes .functionName fun _ v =>
  if v.node.kind == .functionDeclaration then
    let parts := (v.node.children.head?.map Node.walk).getD []
      |>.filter fun n => n.kind == .identifier && n.isPositioned
    match parts.getLast? with
    | none => .ok []
    | some part =>
      .ok (issueIf (!Name.isUpperCamelCase part.name) part.start
        "Function names should be UpperCamelCase.")
  else .ok []

/-- The name of a data type without parameters, as it is written. -/
def dataTypeName : Check := ofNodes .dataTypeName fun s v =>
  if v.node.kind == .dataType && v.node.isPositioned &&
      !v.node.children.any (·.kind == .dataType) then
    let (word, _) := Scan.nextWord s.text v.node.start.toNat
    .ok (issueIf (!word.isEmpty && !Name.isAllCaps word) v.node.start
      "Simple SQL data types should be all caps.")
  else .ok []

/-- The name of a column in a select list; UpperCamelCase is tolerated. -/
def columnName : Check := ofNodes .columnName fun _ v =>
  let identifier? := if v.node.kind == .aliased && parentKind? v == some .select then
      lastIdentifier? v.node v.node.aliasName
    else none
  match identifier? with
  | none => .ok []
  | some identifier =>
    .ok (issueIf (!Name.isLowerSnakeCase identifier.name && !Name.isUpperCamelCase identifier.name)
      identifier.start "Column names should be lower_snake_case.")

/-- The name of a function parameter: tables are named differently from values. -/
def parameterName : Check := ofNodes .parameterName fun _ v =>
  let identifier? := if v.node.kind == .columnDef && parentKind? v == some .functionDeclaration then
      firstIdentifier? v.node v.node.name
    else none
  match identifier? with
  | none => .ok []
  | some identifier =>
    if v.node.children.any fun child => child.kind == .dataType && child.name == "TABLE" then
      .ok (issueIf (!Name.isUpperCamelCase identifier.name) identifier.start
        "Table or proto function parameters should be UpperCamelCase.")
    else
      .ok (issueIf (!Name.isLowerSnakeCase identifier.name) identifier.start
        "Non-table function parameters should be lower_snake_case.")

/-! ## Joins -/

/-- What may stand between a join and the comma or word before it. -/
def joinSkips (c : Char) : Bool := Text.isBlank c || c == '('

/-- A join that has a place and names no type. -/
def isPlainJoin (n : Node) : Bool := n.kind == .join && n.name.isEmpty && n.isPositioned

/-- A join names its type, unless it is written as a comma. The issue is at the word `JOIN` if that
stands before the joined table, opening parentheses apart. -/
def joinRule (s : Source) (v : Node.Visit) : Except Fault (List Finding) := do
  if isPlainJoin v.node then
    let before ← Scan.lastBefore joinSkips s.text v.node.start.toNat
    if before.any fun i => s.text[i]? == some ',' then .ok []
    else
      let word ← Scan.previousWord s.text (before.elim 0 (· + 1))
      let offset : Int := match word with
        | some (w, start) => if Text.upper w == "JOIN" then start else v.node.start
        | none => v.node.start
      .ok [⟨offset, "Always explicitly indicate the type of join."⟩]
  else .ok []

def join : Check := ofNodes .join joinRule

/-! ## Connectives -/

/-- A connective right below the other one: parenthesised operands stand below a node of their
own. -/
def expressionParentheses : Check := ofNodes .expressionParentheses fun _ v =>
  let mixed := (parentKind? v).any fun kind => kind.isConnective && kind != v.node.kind
  .ok (issueIf (v.node.kind.isConnective && v.node.isPositioned && mixed) v.node.start
    "Use parentheses between consecutive AND and OR operators")

end SqlStyle.Check
