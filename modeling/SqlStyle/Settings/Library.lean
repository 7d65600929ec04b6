import SqlStyle.Datum.EnvFile
import SqlStyle.Settings.Basic
import SqlStyle.Settings.Error
import SqlStyle.Workspace.Entry

/-! # The settings library

Settings are collected and validated by a library, which is a parameter here. The program gives it a
class of settings: a `Configuration` that says where values come from, and a `Schema` that says
which values a field takes and what it is without one. The library collects values from keyword
arguments and from what is outside of the program, and turns them into settings or complains. -/

namespace SqlStyle

/-- What is outside of a program: variables, and files that may hold more of them. -/
structure Outside where
  vars : List (String × String) := []
  /-- What is at a path. -/
  look : Path → Option Entry := fun _ => none

/-- Where a class of settings takes values from. -/
structure Configuration where
  /-- The beginning of the names of variables. -/
  stem : String
  /-- The path of the environment file. -/
  envFile : String
  /-- The encoding of the environment file. -/
  envEncoding : String
  /-- Names of variables count only in their own letter case. -/
  exactCase : Bool
deriving Repr, DecidableEq

/-- What a class of settings says about its fields. -/
structure Schema where
  /-- The value that a field has for a datum, or what is wrong with it. -/
  rule : (f : Settings.Field) → Datum → Checked f.Value
  /-- What the fields are if no value is given. -/
  base : Settings

/-- A settings library. -/
structure Library where
  /-- Its own keyword arguments, which name no field but change how values are collected. -/
  keywords : List String
  /-- The names that the text of an environment file binds, given the variables of the
  environment. -/
  bindings : List (String × String) → String → EnvFile.Bound
  /-- What the text of a variable says if the value of its field is no single text. -/
  json : String → Option Datum
  integer : Datum → Except Complaint Int
  boolean : Datum → Except Complaint Bool
  text : Datum → Except Complaint String
  /-- A list of texts for the field at a location. -/
  texts : String → Datum → Checked (List String)
  /-- One of some texts. -/
  choice : List String → Datum → Except Complaint String
  /-- The values that keyword arguments, variables and files give. -/
  collect : Configuration → Outside → Entries → Except LookupError Entries
  /-- Settings made of values. Those under names of no field are ignored. -/
  validate : Schema → Entries → Checked Settings

namespace Settings

/-- Variables begin alike, and their names count in any letter case. -/
def configuration : Configuration where
  stem := "SQLLINT_"
  envFile := ".env"
  envEncoding := "utf-8"
  exactCase := false

variable (lib : Library)

/-- An integer above zero. -/
def positive (d : Datum) : Except Complaint Positive := do
  let n ← lib.integer d
  if h : 0 < n then .ok ⟨n.toNat, by omega⟩ else .error .notGreater

/-- A delimiter is exactly one character. -/
def delimiter (d : Datum) : Except Complaint Char := do
  match (← lib.text d).toList with
  | [c] => .ok c
  | _ => .error .refused

/-- Indentation is a single space or tab. -/
def indent (d : Datum) : Except Complaint Indent := do
  match (← lib.text d).toList with
  | [' '] => .ok .space
  | ['\t'] => .ok .tab
  | _ => .error .refused

/-- A dialect goes by its name. -/
def dialectNamed (d : Datum) : Except Complaint Dialect := do
  let name ← lib.choice (Dialect.all.map Dialect.name) d
  (Dialect.ofName? name).elim (.error .notAMember) .ok

/-- What fields take. -/
def rule : (f : Field) → Datum → Checked f.Value
  | .dialect => fun d => .ofField "dialect" (dialectNamed lib d)
  | .lineDelimiter => fun d => .ofField "line_delimiter" (delimiter lib d)
  | .lineLimit => fun d => .ofField "line_limit" (positive lib d)
  | .allowedIndent => fun d => .ofField "allowed_indent" (indent lib d)
  | .tabSize => fun d => .ofField "tab_size" (d.readOptional (positive lib))
  | .singleQuote => fun d => .ofField "single_quote" (lib.boolean d)
  | .upperKeyword => fun d => .ofField "upper_keyword" (lib.boolean d)
  | .disabledRules => fun d => lib.texts "disabled_rules" d
  | .debug => fun d => .ofField "debug" (lib.boolean d)

def schema : Schema where
  rule := rule lib
  base := {}

end Settings

end SqlStyle
