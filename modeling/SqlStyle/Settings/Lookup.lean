import SqlStyle.Datum.Json
import SqlStyle.Settings.Library

/-! # Settings in variables

How the library that the program runs with looks variables up. They set fields under names that
share a beginning; the list of disabled rules is written in them as JSON. They stand in the
environment, in environment files, and in directories of secrets, where a file is named like a
variable and holds its value. The configuration of a class says how they are looked up, and keyword
arguments can change it: keys with an underscore in front name no field, but say how the names
begin, which values count and how they are read, and where files and directories are. -/

namespace SqlStyle

/-- How variables are looked up. -/
structure Lookup where
  /-- The beginning of the names of variables; none if it is nothing that a name could begin
  with. -/
  stem : Option String
  /-- A beginning that names in environment files may have though it is not asked for. -/
  looseStem : Option String := none
  /-- A name counts only in its own letter case. -/
  exactCase : Bool
  /-- A variable that holds the empty text does not count. -/
  skipsEmpty : Bool := false
  /-- The text that stands for null. -/
  nullText : Option String := none
  /-- A dialect may be written in capitals. -/
  readsCapitals : Bool := false
  /-- What joins the name of a variable to the name of a part of its value. -/
  joint : Option String := none
  /-- The paths of the environment files, as they are given. -/
  envFiles : Datum
  /-- The encoding of the environment files, as it is given. -/
  encoding : Datum
  /-- The paths of the directories of secrets, as they are given. -/
  secretDirs : Datum := .null

namespace Lookup

/-- The keyword arguments that change it. -/
def keywords : List String :=
  ["_env_nested_max_split", "_env_prefix", "_env_prefix_target", "_case_sensitive",
    "_env_ignore_empty", "_env_parse_none_str", "_env_parse_enums", "_env_nested_delimiter",
    "_env_file", "_env_file_encoding", "_secrets_dir", "_cli_parse_args"]

/-! ## From keyword arguments -/

/-- The value of a key that is there and not null. -/
def given? (table : Entries) (key : String) : Option Datum :=
  match table.lookup key with
  | some .null => none
  | found => found

/-- A table switches something on. -/
def isOn (table : Entries) (key : String) : Bool := (table.lookup key).any Datum.isTruthy

/-- The text under a key. -/
def text? (table : Entries) (key : String) : Option String :=
  (given? table key).bind fun d => d.readText.toOption

/-- Names of fields have a beginning, not only other names. -/
def targetsFields (table : Entries) : Bool :=
  match given? table "_env_prefix_target" with
  | none => true
  | some (.text target) => target == "variable" || target == "all"
  | some _ => false

/-- The beginning of names that a table gives. -/
def stemIn (table : Entries) (otherwise : Option String) : Except LookupError (Option String) :=
  match given? table "_env_prefix" with
  | none => .ok otherwise
  | some (.text stem) => .ok (some stem)
  | some (.list _) | some (.table _) => .ok none
  | some d => .error (.misused (.withoutLength d.typeName))

/-- A limit on the parts of names has to be a number. -/
def checkLimit (table : Entries) : Except LookupError Unit :=
  match given? table "_env_nested_max_split" with
  | none | some (.bool _) | some (.int _) | some (.decimal _ _) | some .notFinite => .ok ()
  | some d => if d.isTruthy then .error (.misused (.notSubtractable d.typeName)) else .ok ()

/-- How a class of settings wants variables to be looked up. -/
def ofConfiguration (c : Configuration) : Lookup where
  stem := some c.stem
  exactCase := c.exactCase
  envFiles := .text c.envFile
  encoding := .text c.envEncoding

/-- How they are looked up once keyword arguments have changed it. -/
def ofArguments (c : Configuration) (table : Entries) : Except LookupError Lookup := do
  let base := ofConfiguration c
  checkLimit table
  let stem ← stemIn table base.stem
  .ok {
    stem := if targetsFields table then stem else some ""
    looseStem := if targetsFields table then base.looseStem else stem
    exactCase := ((given? table "_case_sensitive").map Datum.isTruthy).getD base.exactCase
    skipsEmpty := isOn table "_env_ignore_empty"
    nullText := text? table "_env_parse_none_str"
    readsCapitals := isOn table "_env_parse_enums"
    joint := (text? table "_env_nested_delimiter").filter (!·.isEmpty)
    envFiles := (table.lookup "_env_file").getD base.envFiles
    encoding := (given? table "_env_file_encoding").getD base.encoding
    secretDirs := (table.lookup "_secrets_dir").getD base.secretDirs }

/-! ## Files and directories -/

/-- The paths that a value holds: itself, its items, or its keys. -/
def pathsIn : Datum → Except LookupError (List Datum)
  | .null => .ok []
  | .text s => .ok [.text s]
  | .list items => .ok items
  | .table entries => .ok (entries.map fun e => .text e.1)
  | d => .error (.misused (.notIterable d.typeName))

/-- A path. One that starts with a tilde leads to a home, which is no place to look in. -/
def pathOf : Datum → Except LookupError Path
  | .text s =>
    let path := Path.ofString s
    let first := path.parts.headD ""
    if !path.root.isEmpty || first.toList.head? != some '~' then .ok path
    else if first == "~" then .ok { path with root := "/" }
    else .error .unknownHome
  | d => .error (.misused (.notAPath d.typeName))

/-- The places where variables are looked for. -/
def places (l : Lookup) : List Path :=
  let given := [l.envFiles, l.secretDirs].flatMap fun d => (pathsIn d).toOption.getD []
  given.filterMap fun d => (pathOf d).toOption

/-- The text of an environment file. What counts as false names no encoding, and UTF-8 is taken. -/
def envText (l : Lookup) (contents : ByteArray) : Except LookupError String := do
  let encoding ← match l.encoding with
    | .text "" => .ok Encoding.utf8
    | .text name => (Encoding.ofName? name).elim (.error (.unknownEncoding name)) .ok
    | d => if d.isTruthy then .error (.misused (.notAnEncoding d.typeName)) else .ok .utf8
  (encoding.decode contents).mapError .undecodable

/-- The texts of the environment files that are there. -/
def envTexts (l : Lookup) (look : Path → Option Entry) : Except LookupError (List String) := do
  let texts ← (← pathsIn l.envFiles).mapM fun d => do
    let path ← pathOf d
    match look path with
    | some (.file (some contents)) => (l.envText contents).map some
    | some (.file none) => .error (.closedEnvFile (toString path))
    | _ => .ok none
  .ok (texts.filterMap id)

/-- What the directories of secrets that are there hold. -/
def secrets (l : Lookup) (look : Path → Option Entry) :
    Except LookupError (List (List (String × Entry))) := do
  let paths ← (← pathsIn l.secretDirs).mapM pathOf
  (paths.filterMap look).mapM fun
    | .directory entries => .ok entries
    | .file _ => .error .secretsInFile

/-! ## Variables -/

/-- A name as it is compared. -/
def key (l : Lookup) (name : String) : String := if l.exactCase then name else Text.lower name

/-- The name of the variable for a field. -/
def variableName (l : Lookup) (field : String) : Except LookupError String :=
  l.stem.elim (.error (.lostVariable field)) fun stem => .ok (stem ++ field)

/-- A binding counts. -/
def counts (l : Lookup) (v : String × Option String) : Bool := !(l.skipsEmpty && v.2 == some "")

/-- The value of a variable. Of two the later counts, even if it is bound to nothing. -/
def value? (l : Lookup) (vars : EnvFile.Bound) (name : String) : Option String :=
  (vars.reverse.find? fun v => l.counts v && l.key v.1 == l.key name).bind Prod.snd

/-- A name is that of a field or of a part of one, without any beginning. -/
def isPlain (l : Lookup) (name : String) : Bool :=
  Settings.fieldNames.contains (l.key name) || "disabled_rules".toList.isPrefixOf
    (l.key name).toList

/-- The value of a variable for a field whose name has a beginning that is not asked for. An empty
one does not count. -/
def looseValue? (l : Lookup) (vars : EnvFile.Bound) (field : String) : Option String := do
  let name := (← l.looseStem) ++ field
  if l.isPlain name then none else (l.value? vars name).filter (!·.isEmpty)

/-- Some variable sets a part of a value. What joins the names counts in its own letter case. -/
def hasParts (l : Lookup) (vars : EnvFile.Bound) (name : String) : Bool :=
  l.joint.any fun joint =>
    vars.any fun v => l.counts v && (l.key name ++ joint).toList.isPrefixOf (l.key v.1).toList

/-- The file of secrets for a variable, with its contents if it can be opened. Of two directories
the later counts. -/
def secret? (l : Lookup) (dirs : List (List (String × Entry))) (name : String) :
    Option (Option ByteArray) :=
  dirs.reverse.findSome? fun entries =>
    match entries.find? fun e => l.key e.1 == l.key name with
    | some (_, .file contents) => some contents
    | _ => none

end Lookup

end SqlStyle
