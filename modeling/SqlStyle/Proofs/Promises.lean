import SqlStyle.Proofs.Fields

/-! # What a settings library promises

Loading settings relies on a library, and on no more of it than its documentation says
(`Library.Documented`): where values can be collected at all, keyword arguments count before the
environment, the environment before its file, and nothing else counts; conversions do not take
tables; and validation reads every field on its own, ignores names of no field, and tells all that
is wrong. -/

namespace SqlStyle

/-- Values that count alike for every field: equal ones, and any tables, which a library may
merge. -/
inductive Datum.Alike : Datum → Datum → Prop
  | refl (d : Datum) : Alike d d
  | tables (entries others : Entries) : Alike (.table entries) (.table others)

namespace Settings

/-! ## Variables -/

/-- A variable is named for a field: the common beginning and the name of the field, in any letter
case. -/
def isNamedFor (field name : String) : Bool :=
  Text.lower name == Text.lower (configuration.stem ++ field)

/-- No two variables are named for one field. -/
def NamesOnce (vars : EnvFile.Bound) : Prop :=
  ∀ field ∈ fieldNames, (vars.filter fun v => isNamedFor field v.1).length ≤ 1

instance (vars : EnvFile.Bound) : Decidable (NamesOnce vars) :=
  inferInstanceAs (Decidable (∀ field ∈ fieldNames, _ ≤ 1))

/-- The text of the variable that is named for a field. -/
def variableText (vars : EnvFile.Bound) (field : String) : Option String :=
  (vars.find? fun v => isNamedFor field v.1).bind Prod.snd

end Settings

namespace Outside

/-- The variables of the environment itself. -/
def bound (o : Outside) : EnvFile.Bound := o.vars.map fun v => (v.1, some v.2)

end Outside

/-! ## Arguments -/

namespace Entries

/-- A table gives no value to certain names. -/
def Avoids (names : List String) (entries : Entries) : Prop :=
  ∀ name ∈ names, entries.lookup name = none

/-- Fields go by their own names in a table, not by names with capitals. -/
def IsDeclared (entries : Entries) : Prop :=
  ∀ e ∈ entries, Text.lowerAscii e.1 ∈ Settings.fieldNames → e.1 ∈ Settings.fieldNames

instance (names : List String) (entries : Entries) : Decidable (entries.Avoids names) :=
  decidable_of_iff (names.all fun name => (entries.lookup name).isNone) <| by
    simp [Avoids]

instance (entries : Entries) : Decidable entries.IsDeclared :=
  inferInstanceAs (Decidable (∀ e ∈ entries, _ → _))

end Entries

namespace Library

variable (lib : Library)

/-! ## Collecting -/

/-- What a text says about a field: the list of disabled rules is JSON, in which null says
nothing. -/
def datumOf (field text : String) : Option Datum :=
  if field == "disabled_rules" then
    match lib.json text with
    | some .null => none
    | found => found
  else some (.text text)

/-- The value that variables give a field. -/
def variableValue (vars : EnvFile.Bound) (field : String) : Option Datum :=
  (Settings.variableText vars field).bind (lib.datumOf field)

/-- The list of disabled rules, where variables give it at all, is written as JSON. -/
def IsReadable (vars : EnvFile.Bound) : Prop :=
  ∀ text, Settings.variableText vars "disabled_rules" = some text → (lib.json text).isSome = true

instance (vars : EnvFile.Bound) : Decidable (lib.IsReadable vars) :=
  decidable_of_iff
    ((Settings.variableText vars "disabled_rules").all fun text => (lib.json text).isSome) <| by
    cases h : Settings.variableText vars "disabled_rules" <;> simp [IsReadable, h]

/-- What the environment file binds, and nothing if it is not there; there is no answer if it cannot
be opened or is no text. -/
def fileBound? (o : Outside) : Option EnvFile.Bound :=
  match o.look (Path.ofString Settings.configuration.envFile) with
  | some (.file contents) => (contents.bind String.fromUTF8?).map (lib.bindings o.vars)
  | _ => some []

/-- Values can be collected: keyword arguments name fields properly and are none of the library's
own, the environment file is a text if it is there, and variables name each field at most once and
can be read. -/
structure Collectible (o : Outside) (args : Entries) (bound : EnvFile.Bound) : Prop where
  args_own : args.Avoids lib.keywords
  args_declared : args.IsDeclared
  file : lib.fileBound? o = some bound
  vars_once : Settings.NamesOnce o.bound
  bound_once : Settings.NamesOnce bound
  vars_readable : lib.IsReadable o.bound
  bound_readable : lib.IsReadable bound

/-- Values that are collected from where they can be. -/
structure Collects (o : Outside) (args : Entries) (bound : EnvFile.Bound) (values : Entries) : Prop
    extends lib.Collectible o args bound where
  collected : lib.collect Settings.configuration o args = .ok values

/-! ## Promises -/

/-- What the documentation of a settings library says. -/
structure Documented : Prop where
  /-- Values are collected wherever they can be. -/
  collects : ∀ {o : Outside} {args : Entries} {bound : EnvFile.Bound},
    lib.Collectible o args bound → ∃ values, lib.Collects o args bound values
  /-- Keyword arguments count before anything else. -/
  arguments_first : ∀ {o : Outside} {args values : Entries} {bound : EnvFile.Bound},
    lib.Collects o args bound values → ∀ (f : Settings.Field) {d : Datum},
      args.lookup f.name = some d → ∃ v, values.lookup f.name = some v ∧ d.Alike v
  /-- The environment counts next. -/
  environment_next : ∀ {o : Outside} {args values : Entries} {bound : EnvFile.Bound},
    lib.Collects o args bound values → ∀ (f : Settings.Field) {d : Datum},
      args.lookup f.name = none → lib.variableValue o.bound f.name = some d →
        ∃ v, values.lookup f.name = some v ∧ d.Alike v
  /-- The environment file counts after that. -/
  file_last : ∀ {o : Outside} {args values : Entries} {bound : EnvFile.Bound},
    lib.Collects o args bound values → ∀ (f : Settings.Field) {d : Datum},
      args.lookup f.name = none → lib.variableValue o.bound f.name = none →
        lib.variableValue bound f.name = some d → ∃ v, values.lookup f.name = some v ∧ d.Alike v
  /-- There are no other sources. -/
  nothing_else : ∀ {o : Outside} {args values : Entries} {bound : EnvFile.Bound},
    lib.Collects o args bound values → ∀ f : Settings.Field,
      args.lookup f.name = none → lib.variableValue o.bound f.name = none →
        lib.variableValue bound f.name = none → values.lookup f.name = none
  /-- A table is neither a number nor a truth value nor a text nor a list. -/
  tables_refused : ∀ entries : Entries, (∀ n, lib.integer (.table entries) ≠ .ok n) ∧
    (∀ b, lib.boolean (.table entries) ≠ .ok b) ∧ (∀ s, lib.text (.table entries) ≠ .ok s) ∧
    (∀ location names, lib.texts location (.table entries) ≠ .ok names) ∧
    ∀ choices s, lib.choice choices (.table entries) ≠ .ok s
  /-- What is wrong with a list is told at its location or below. -/
  texts_located : ∀ {location : String} {d : Datum} {errors : List FieldError},
    lib.texts location d = .error errors → errors ≠ [] ∧ ∀ e ∈ errors,
      e.location = location ∨ ∃ rest, e.location = location ++ "." ++ rest
  /-- Settings are made just if every field has a value, which without one given is its default. -/
  validate_ok : ∀ {schema : Schema} {values : Entries} {s : Settings},
    lib.validate schema values = .ok s ↔ ∀ f : Settings.Field,
      (values.lookup f.name).elim (f.get s = f.get schema.base) fun d =>
        schema.rule f d = .ok (f.get s)
  /-- Otherwise all that is wrong with any field is told, and nothing else. -/
  validate_error : ∀ {schema : Schema} {values : Entries} {errors : List FieldError},
    lib.validate schema values = .error errors → ∀ e, e ∈ errors ↔
      ∃ (f : Settings.Field) (d : Datum), values.lookup f.name = some d ∧
        e ∈ (schema.rule f d).errors

end Library

/-! ## What follows for the fields -/

namespace Settings

variable {lib : Library} (hlib : lib.Documented)

include hlib

namespace Field

theorem not_takes_table (f : Field) (entries : Entries) (v : f.Value) :
    ¬ f.Takes lib (.table entries) v := by
  obtain ⟨hinteger, hboolean, htext, htexts, hchoice⟩ := hlib.tables_refused entries
  cases f with
  | dialect => exact hchoice _ _
  | lineDelimiter => exact htext _
  | lineLimit => exact hinteger _
  | allowedIndent => exact htext _
  | tabSize =>
    cases v with
    | none => exact nofun
    | some n => exact fun h => hinteger _ h.2
  | singleQuote => exact hboolean _
  | upperKeyword => exact hboolean _
  | disabledRules => exact htexts _ _
  | debug => exact hboolean _

/-- A field takes the same values from data that are alike. -/
theorem takes_congr (f : Field) {d d' : Datum} (h : d.Alike d') (v : f.Value) :
    f.Takes lib d v ↔ f.Takes lib d' v := by
  cases h with
  | refl => exact Iff.rfl
  | tables entries others =>
    exact iff_of_false (f.not_takes_table hlib _ v) (f.not_takes_table hlib _ v)

/-- What is wrong with a datum is told under the name of its field. -/
theorem rule_error (f : Field) {d : Datum} {errors : List FieldError}
    (h : rule lib f d = .error errors) : errors ≠ [] ∧ ∀ e ∈ errors, e.field = f.name := by
  cases f with
  | disabledRules =>
    obtain ⟨hsome, hlocated⟩ := hlib.texts_located h
    refine ⟨hsome, fun e he => ?_⟩
    rcases hlocated e he with hhere | ⟨rest, hbelow⟩
    · exact field_of_location .disabledRules (by rw [hhere]; exact (List.append_nil _).symm) rfl
    · have hlocation : e.location.toList = (name .disabledRules).toList ++ '.' :: rest.toList := by
        simp [hbelow, name]
      exact field_of_location .disabledRules hlocation rfl
  | dialect => exact ofField_error .dialect h
  | lineDelimiter => exact ofField_error .lineDelimiter h
  | lineLimit => exact ofField_error .lineLimit h
  | allowedIndent => exact ofField_error .allowedIndent h
  | tabSize => exact ofField_error .tabSize h
  | singleQuote => exact ofField_error .singleQuote h
  | upperKeyword => exact ofField_error .upperKeyword h
  | debug => exact ofField_error .debug h

/-- Complaints about a datum name the field, and there are some just if the field takes no value
from it. -/
theorem exists_mem_errors_rule (f : Field) (d : Datum) (name : String) :
    (∃ error ∈ (rule lib f d).errors, error.field = name) ↔
      f.name = name ∧ ¬ ∃ v, f.Takes lib d v := by
  simp only [← rule_eq_ok]
  cases hrule : rule lib f d with
  | ok v => simp [Checked.errors]
  | error errors =>
    obtain ⟨hsome, hfield⟩ := f.rule_error hlib hrule
    obtain ⟨first, hfirst⟩ := List.exists_mem_of_ne_nil errors hsome
    constructor
    · rintro ⟨error, herror, rfl⟩
      exact ⟨(hfield error herror).symm, by simp⟩
    · rintro ⟨rfl, -⟩
      exact ⟨first, hfirst, hfield first hfirst⟩

end Field

end Settings

end SqlStyle
