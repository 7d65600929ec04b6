import SqlStyle.Fault
import SqlStyle.Grammar.Expr
import SqlStyle.Grammar.Lexeme
import SqlStyle.Tree.Node

/-! # From expressions to syntax nodes

Expressions carry no offsets, so they are matched with the statement's lexemes again: the leaves are
met in the order in which they are written, and each claims the first lexeme left that spells it. A
claimed lexeme is out of reach of later leaves. An inner node spans its own lexeme and the ranges of
its children. Trees are cut at a fixed depth; a node below it has neither children nor a position.
An expression that cannot be named or looked for is a fault, and its statement has no tree. -/

namespace SqlStyle.Grammar

/-- The kinds of the classes that have one of their own. -/
def kindOfClass : List (String × Kind) :=
  [("Select", .select), ("Create", .create), ("Insert", .insert), ("Update", .update),
    ("Delete", .delete), ("Drop", .drop), ("Command", .command), ("With", .withClause),
      ("CTE", .cte),
    ("From", .fromClause), ("Join", .join), ("Where", .whereClause), ("Group", .group),
    ("Having", .having), ("Order", .order), ("Table", .table), ("Schema", .schema),
      ("Column", .column),
    ("ColumnDef", .columnDef), ("Star", .star), ("Alias", .aliased), ("TableAlias", .tableAlias),
    ("Identifier", .identifier), ("Literal", .literal), ("And", .conjunction), ("Or", .disjunction),
    ("Paren", .paren), ("Subquery", .subquery), ("Window", .window),
    ("UserDefinedFunction", .functionDeclaration), ("DataType", .dataType)]

/-- The kind of node an expression becomes. -/
def Expr.kind (e : Expr) : Kind :=
  match kindOfClass.lookup e.cls.name with
  | some kind => kind
  | none => if e.isA .function then .function else .unknown

/-- What names a join: its method, side and kind, as far as they are given. -/
def Expr.joinWords (e : Expr) : List Value :=
  (["method", "side", "kind"].map fun key => e.ask (.text key)).filter Value.isTruthy

/-- The name of the node: a join is named for its type, a creation for the kind of object. -/
def Expr.nodeName (e : Expr) : String :=
  if e.isA .join then Text.upper (" ".intercalate (e.joinWords.map Value.spelled))
  else if e.isA .create then Text.upper (e.ask (.text "kind")).asText
  else if e.isA .identifier || e.isA .literal then e.name
  else if e.isA .star then "*"
  else if e.isA .dataType then
    match e.arg "this" with
    | .type name => name
    | _ => ""
  else if e.isA .aliased then e.aliasName
  else e.spelledName

/-- The alias of the node. -/
def Expr.nodeAlias (e : Expr) : String :=
  if e.isA .aliased then e.aliasName
  else match e.arg "alias" with
    | .expr a => a.name
    | .type name => name
    | _ => ""

/-! ## Claiming lexemes -/

/-- The first lexeme that passes a test, and the others. -/
def claim (p : Lexeme → Bool) : List Lexeme → Option (Lexeme × List Lexeme)
  | [] => none
  | l :: rest =>
    if p l then some (l, rest) else (claim p rest).map fun found => (found.1, l :: found.2)

/-- The lexeme an expression stands for, and the lexemes left. -/
def Expr.claim? (e : Expr) (free : List Lexeme) : Option (Lexeme × List Lexeme) :=
  if e.isA .identifier then
    (claim (fun l => !l.isLiteral && l.text == e.name) free).or (claim (·.text == e.name) free)
  else if e.isA .literal then
    let sameSort (l : Lexeme) := if (e.arg "is_string").isTruthy then l.isString else l.isNumber
    (claim (fun l => sameSort l && l.text == e.name) free).or (claim (·.text == e.name) free)
  else if e.isA .star then claim (·.text == "*") free
  else if e.isA .null then claim (fun l => Text.upper l.text == "NULL") free
  else if e.isA .boolean then
    let word := if (e.arg "this").isTruthy then "TRUE" else "FALSE"
    claim (fun l => Text.upper l.text == word) free
  else if e.isA .dataType then
    match e.arg "this" with
    | .type name => claim (·.type == name) free
    | _ => none
  else none

/-! ## Expressions that cannot become nodes -/

/-- Why an expression cannot be named. Joins and creations are named by texts only. -/
def Expr.nameFault? (e : Expr) : Option Fault :=
  if e.isA .join then
    e.joinWords.zipIdx.findSome? fun
      | (.text _, _) => none
      | (v, index) => some (.wordWithoutText index v.typeName)
  else if e.isA .create then
    match e.ask (.text "kind") with
    | .text _ => none
    | v => some (.kindWithoutText v.typeName)
  else none

/-- Why no lexeme can be looked for: a literal has to say whether it is a string. -/
def Expr.claimFault? (e : Expr) : Option Fault :=
  if !e.isA .identifier && e.isA .literal && (e.args.lookup "is_string").isNone then
    some (.missingArgument "is_string")
  else none

/-- The first fault met when a tree is built, `levels` levels of it with positions and children. -/
def Expr.fault? : Nat → Expr → Option Fault
  | 0, e => e.nameFault?
  | levels + 1, e => (e.nameFault?.or e.claimFault?).or (e.children.findSome? (Expr.fault? levels))

/-! ## Building the tree -/

/-- A range of offsets; a negative start means that there is none. -/
structure Range where
  start : Int := -1
  stop : Int := -1
deriving Repr, DecidableEq

/-- The smallest range around this one and a node. -/
def Range.cover (r : Range) (n : Node) : Range :=
  if n.isPositioned then
    ⟨if r.start < 0 then n.start else min r.start n.start, max r.stop n.stop⟩
  else r

/-- Builds one node after the other, each from the lexemes the ones before it left. -/
def buildEach (build : Expr → List Lexeme → Node × List Lexeme) :
    List Expr → List Lexeme → List Node × List Lexeme
  | [], free => ([], free)
  | e :: rest, free =>
    let (node, free) := build e free
    let (nodes, free) := buildEach build rest free
    (node :: nodes, free)

/-- The tree of an expression, `levels` levels of it with positions and children. -/
def buildNode : Nat → Expr → List Lexeme → Node × List Lexeme
  | 0, e, free => (.mk e.kind e.nodeName e.nodeAlias (-1) (-1) [], free)
  | levels + 1, e, free =>
    let (own, free) := match e.claim? free with
      | some (l, free) => (⟨l.start, l.stop⟩, free)
      | none => (({} : Range), free)
    let (children, free) := buildEach (buildNode levels) e.children free
    let range := children.foldl Range.cover own
    (.mk e.kind e.nodeName e.nodeAlias range.start range.stop children, free)

/-- How many levels of an expression are followed. -/
def maxLevels : Nat := 101

/-- The syntax tree of an expression over the lexemes of its statement. -/
def Expr.toNode (e : Expr) (lexemes : List Lexeme) : Except Fault Node :=
  match e.fault? maxLevels with
  | some fault => .error fault
  | none => .ok (buildNode maxLevels e lexemes).1

end SqlStyle.Grammar
