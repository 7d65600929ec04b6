import SqlStyle.Settings.Lookup

/-! # The library that the program runs with

Values are taken, in order of strength, from keyword arguments, variables of the environment,
environment files, and directories of secrets; the first source that names a field, in any letter
case, decides about it. Each value is then read on its own, and all that is wrong is told
together. -/

namespace SqlStyle

namespace Lookup

/-- What a text says about a field. The list of disabled rules is JSON, and null says nothing. -/
def entryOf (field value : String) : Except LookupError (Option (String × Datum)) :=
  if field == "disabled_rules" then
    match Json.parse? value with
    | none => .error (.invalidVariable field)
    | some .null => .ok none
    | some d => .ok (some (field, d))
  else .ok (some (field, .text value))

/-- What a variable says about a field. -/
def variableEntry (lookup : Lookup) (vars : EnvFile.Bound) (field : String) :
    Except LookupError (Option (String × Datum)) := do
  let name ← lookup.variableName field
  match lookup.value? vars name with
  | none =>
    .ok (if field == "disabled_rules" && lookup.hasParts vars name then some (field, .table [])
      else none)
  | some value =>
    let dialect :=
      if field == "dialect" && lookup.readsCapitals then Dialect.ofCapitals? value else none
    match dialect with
    | some dialect => .ok (some (field, .text dialect.name))
    | none =>
      if lookup.nullText == some value then .ok (some (field, .null)) else entryOf field value

/-- What environment files say about fields under names with a beginning that is not asked for, each
a plain text. -/
def looseEntries (lookup : Lookup) (vars : EnvFile.Bound) : Entries :=
  Settings.fieldNames.filterMap fun field => (lookup.looseValue? vars field).map fun value =>
    (field, .text value)

/-- What a secret says about a field. -/
def secretEntry (lookup : Lookup) (dirs : List (List (String × Entry))) (field : String) :
    Except LookupError (Option (String × Datum)) := do
  match lookup.secret? dirs (← lookup.variableName field) with
  | none => .ok none
  | some none => .error (.lostVariable field)
  | some (some contents) =>
    match Utf8.decode contents with
    | .ok s => entryOf field (String.ofList (Text.trim Text.isSpace (Text.unifyNewlines s.toList)))
    | .error _ => .error (.lostVariable field)

/-- The fields that are set, from what is said about each. -/
def eachField (entry : String → Except LookupError (Option (String × Datum))) :
    Except LookupError Entries := do
  let entries ← Settings.fieldNames.mapM entry
  .ok (entries.filterMap id)

/-- Arguments may be given as a list or not at all. -/
def checkArguments (table : Entries) : Except LookupError Unit :=
  match given? table "_cli_parse_args" with
  | none | some (.list _) | some (.bool _) | some (.int 0) | some (.decimal 0 _) => .ok ()
  | some d => .error (.invalidArguments d.typeName)

/-! ## Values -/

/-- The value a source gives a field. Names count in any letter case, and of two the earlier. -/
def valueIn (field : String) (entries : Entries) : Option Datum :=
  (entries.find? fun e => Text.lowerAscii e.1 == field).map Prod.snd

/-- The value considered for a field: that of the first source that names it. -/
def considered (sources : List Entries) (field : String) : Option Datum :=
  sources.findSome? (valueIn field)

/-- The values that keyword arguments, variables and files give. -/
def collect (c : Configuration) (outside : Outside) (table : Entries) :
    Except LookupError Entries := do
  let lookup ← ofArguments c table
  let envTexts ← lookup.envTexts outside.look
  checkArguments table
  let vars ← eachField (variableEntry lookup (outside.vars.map fun v => (v.1, some v.2)))
  let bound := envTexts.flatMap (EnvFile.parse outside.vars)
  let asked : Entries ← eachField (variableEntry lookup bound)
  let envFiles := asked.update (looseEntries lookup bound)
  let dirs ← lookup.secrets outside.look
  let secrets ← if dirs.isEmpty then .ok [] else eachField (secretEntry lookup dirs)
  let sources := [table, vars, envFiles, secrets]
  .ok (Settings.fieldNames.filterMap fun field => (considered sources field).map (field, ·))

end Lookup

namespace Schema

/-- Reads the value of a field; without one the field is what it is by default. -/
def reading (s : Schema) (values : Entries) (f : Settings.Field) : Checked f.Value :=
  (values.lookup f.name).elim (.ok (f.get s.base)) (s.rule f)

/-- Settings made of values. -/
def validate (s : Schema) (values : Entries) : Checked Settings :=
  let layout := Checked.both (s.reading values .lineDelimiter)
    (Checked.both (s.reading values .lineLimit)
      (Checked.both (s.reading values .allowedIndent) (s.reading values .tabSize)))
  let style := Checked.both (s.reading values .singleQuote) (s.reading values .upperKeyword)
  let run := Checked.both (s.reading values .dialect)
    (Checked.both (s.reading values .disabledRules) (s.reading values .debug))
  let settings : Checked Settings := (Checked.both layout (Checked.both style run)).map fun
    | ((lineDelimiter, lineLimit, allowedIndent, tabSize), (singleQuote, upperKeyword),
        (dialect, disabledRules, debug)) =>
      { dialect, lineDelimiter, lineLimit, allowedIndent, tabSize, singleQuote, upperKeyword,
        disabledRules, debug }
  settings.sorted

end Schema

def Library.standard : Library where
  keywords := Lookup.keywords
  bindings := EnvFile.parse
  json := Json.parse?
  integer := Datum.readInteger
  boolean := Datum.readBoolean
  text := Datum.readText
  texts := Datum.readTexts
  choice := Datum.readChoice
  collect := Lookup.collect
  validate := Schema.validate

end SqlStyle
