import SqlStyle.Datum.Basic
import SqlStyle.Text.Class

/-! # Environment files

A file that binds names to values, one `NAME=value` after the other. A value in quotes may go over
several lines; one without quotes ends with its line, or before a space and a `#`. A name without an
equals sign is bound to nothing. What makes no sense binds nothing, and reading goes on with the
next line. In the values, references such as `${NAME}` are replaced by what is bound above or in the
environment. A mark of the byte order may stand in front of everything. -/

namespace SqlStyle.EnvFile

/-- White space within a line. -/
def isBlank (c : Char) : Bool := Text.isSpace c && c != '\n'

/-- What follows the line that is under way. -/
def skipLine (cs : List Char) : List Char := (cs.dropWhile (· != '\n')).drop 1

/-- A name, and the value it is bound to. -/
structure Binding where
  name : String
  value : Option String
deriving Repr, DecidableEq

/-- Something read, or where nothing more can be made of the line. -/
abbrev Attempt := Except (List Char)

/-! ## Names -/

def isNameChar (c : Char) : Bool := c != '=' && c != '#' && !Text.isSpace c

/-- What follows the word `export` and blanks, or what is there if they are not. -/
def afterExport (cs : List Char) : List Char :=
  match Text.after? ['e', 'x', 'p', 'o', 'r', 't'] cs with
  | some rest => if rest.head?.any isBlank then rest.dropWhile isBlank else cs
  | none => cs

/-- A name, between single quotes or not. A comment stands for none. -/
def name (cs : List Char) : Attempt (Option String × List Char) :=
  match cs with
  | '#' :: _ => .ok (none, cs)
  | '\'' :: rest =>
    let found := rest.takeWhile (· != '\'')
    match rest.drop found.length with
    | _ :: more => if found.isEmpty then .error cs else .ok (some (String.ofList found), more)
    | [] => .error cs
  | _ =>
    let found := cs.takeWhile isNameChar
    if found.isEmpty then .error cs else .ok (some (String.ofList found), cs.drop found.length)

/-! ## Values -/

/-- What a backslash and one more character stand for inside quotes; double quotes know control
characters, too. -/
def escape? (quote : Char) : Char → Option Char
  | '\\' => some '\\'
  | '\'' => some '\''
  | '"' => if quote == '"' then some '"' else none
  | 'a' => if quote == '"' then some '\x07' else none
  | 'b' => if quote == '"' then some '\x08' else none
  | 'f' => if quote == '"' then some '\x0c' else none
  | 'n' => if quote == '"' then some '\n' else none
  | 'r' => if quote == '"' then some '\r' else none
  | 't' => if quote == '"' then some '\t' else none
  | 'v' => if quote == '"' then some '\x0b' else none
  | _ => none

/-- The characters up to the closing quote, and what follows it. -/
def quotedRest? (quote : Char) : List Char → Option (List Char × List Char)
  | [] => none
  | '\\' :: c :: rest =>
    (quotedRest? quote rest).map fun r =>
      (((escape? quote c).map ([·])).getD ['\\', c] ++ r.1, r.2)
  | c :: rest => if c == quote then some ([], rest) else (quotedRest? quote rest).map fun r =>
    (c :: r.1, r.2)

/-- The characters before a comment, which is a `#` after a space. -/
def beforeComment : List Char → List Char
  | [] => []
  | c :: rest =>
    if Text.isSpace c && (rest.dropWhile Text.isSpace).head? == some '#' then []
    else c :: beforeComment rest

/-- The value in quotes at the front. -/
def quotedValue (quote : Char) (cs : List Char) : Attempt (String × List Char) :=
  match quotedRest? quote (cs.drop 1) with
  | some (value, rest) => .ok (String.ofList value, rest)
  | none => .error cs

/-- The value after an equals sign. -/
def value (cs : List Char) : Attempt (String × List Char) :=
  let line := cs.takeWhile (· != '\n')
  let inner := cs.dropWhile isBlank
  match inner with
  | '\'' :: _ => quotedValue '\'' inner
  | '"' :: _ => quotedValue '"' inner
  | _ => .ok (String.ofList (Text.trim Text.isSpace (beforeComment line)), cs.drop line.length)

/-! ## Bindings -/

/-- What follows the end of a line, before which only a comment may stand. -/
def afterEnd (cs : List Char) : Attempt (List Char) :=
  match cs.dropWhile isBlank with
  | [] => .ok []
  | '\n' :: rest => .ok rest
  | '#' :: rest => .ok (skipLine rest)
  | _ => .error cs

/-- The binding at the front, or a comment. -/
def binding (cs : List Char) : Attempt (Option Binding × List Char) := do
  let (name, rest) ← name (afterExport cs)
  let rest := rest.dropWhile isBlank
  let (value, rest) ← match rest with
    | '=' :: rest => (value rest).map fun r => (some r.1, r.2)
    | _ => .ok (none, rest)
  let rest ← afterEnd rest
  .ok (name.map fun name => ⟨name, value⟩, rest)

/-- The bindings, at most `fuel` of them. -/
def bindings : Nat → List Char → List Binding
  | 0, _ => []
  | fuel + 1, cs =>
    match cs.dropWhile Text.isSpace with
    | [] => []
    | cs =>
      match binding cs with
      | .ok (found, rest) => found.toList ++ bindings fuel rest
      | .error rest => bindings fuel (skipLine rest)

/-! ## References -/

/-- A reference after its opening brace: the name, what stands for it if it is not bound, and what
follows. -/
def reference? (cs : List Char) : Option (String × String × List Char) :=
  let name := cs.takeWhile fun c => c != '\x7d' && c != ':'
  match cs.drop name.length with
  | '\x7d' :: rest => some (String.ofList name, "", rest)
  | ':' :: '-' :: more =>
    let otherwise := more.takeWhile (· != '\x7d')
    match more.drop otherwise.length with
    | _ :: rest => some (String.ofList name, String.ofList otherwise, rest)
    | [] => none
  | _ => none

/-- The characters with references replaced, at most `fuel` characters. -/
def expand (valueOf : String → String → String) : Nat → List Char → List Char
  | 0, _ => []
  | fuel + 1, cs =>
    match cs with
    | [] => []
    | c :: rest =>
      match (Text.after? ['$', '\x7b'] cs).bind reference? with
      | some (name, otherwise, rest) => (valueOf name otherwise).toList ++ expand valueOf fuel rest
      | none => c :: expand valueOf fuel rest

/-- Names in the order in which they are first bound, each with its last value. -/
abbrev Bound := List (String × Option String)

/-- What a reference stands for. A name bound to nothing stands for nothing. -/
def Bound.valueOf (vars : List (String × String)) (bound : Bound) (name otherwise : String) :
    String :=
  match bound.lookup name with
  | some value => value.getD ""
  | none => (vars.lookup name).getD otherwise

/-- Binds one more name. -/
def Bound.bind (vars : List (String × String)) (bound : Bound) (b : Binding) : Bound :=
  setEntry b.name (b.value.map fun value =>
    String.ofList (expand (bound.valueOf vars) (value.length + 1) value.toList)) bound

/-- The characters without the mark of the byte order in front of them. Only one is a mark, a second
one is part of what follows. -/
def withoutMark (cs : List Char) : List Char :=
  match cs with
  | '\ufeff' :: rest => rest
  | _ => cs

/-- What a file binds in an environment. -/
def parse (vars : List (String × String)) (s : String) : Bound :=
  let cs := Text.unifyNewlines (withoutMark s.toList)
  (bindings (cs.length + 1) cs).foldl (Bound.bind vars) []

end SqlStyle.EnvFile
