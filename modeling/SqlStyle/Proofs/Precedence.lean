import SqlStyle.Proofs.KeptPromises

/-! # The strongest source

Settings are taken field by field. Of overrides, a configuration file, the environment and its file,
the first that names a field decides about it, for better or worse: a weaker value neither spoils a
good one nor makes up for a bad one (`load_takes_strongest`). This holds with every settings library
that does what its documentation says. -/

namespace SqlStyle

/-! ## Tables -/

theorem lookup_setEntry {α : Type} (key : String) (value : α) (other : String)
    (entries : List (String × α)) :
    (setEntry key value entries).lookup other = if other = key then
        some value else entries.lookup other := by
  induction entries with
  | nil => rw [setEntry, lookup_cons_ite]
  | cons e rest ih =>
    rw [setEntry]
    by_cases he : e.1 = key
    · rw [if_pos (beq_iff_eq.mpr he), lookup_cons_ite, lookup_cons_ite]
      grind
    · rw [if_neg (by simpa using he), lookup_cons_ite, lookup_cons_ite, ih]
      grind

theorem mem_setEntry {α : Type} {key : String} {value : α} {e : String × α}
    {entries : List (String × α)} (h : e ∈ setEntry key value entries) :
    e = (key, value) ∨ e ∈ entries := by
  induction entries with
  | nil => simpa [setEntry] using h
  | cons first rest ih =>
    rw [setEntry] at h
    split at h
    · exact (List.mem_cons.mp h).imp_right (List.mem_cons_of_mem _)
    · rcases List.mem_cons.mp h with rfl | hrest
      · exact .inr List.mem_cons_self
      · exact (ih hrest).imp_right (List.mem_cons_of_mem _)

namespace Entries

/-- An updated table says what the update says, and where that is silent what it said before. -/
theorem lookup_update (entries : Entries) {other : Entries} (honce : (other.map Prod.fst).Nodup)
    (key : String) :
    (entries.update other).lookup key = (other.lookup key).or (entries.lookup key) := by
  induction other generalizing entries with
  | nil => rfl
  | cons e rest ih =>
    obtain ⟨hfresh, hrest⟩ := List.nodup_cons.mp honce
    have hupdate : entries.update (e :: rest) = (entries.set e.1 e.2).update rest := rfl
    rw [hupdate, ih _ hrest, set, lookup_setEntry, lookup_cons_ite]
    by_cases hkey : key = e.1
    · have hnone : rest.lookup key = none := by
        rw [List.lookup_eq_none_iff]
        grind
      rw [if_pos hkey, if_pos hkey, hnone]
      rfl
    · rw [if_neg hkey, if_neg hkey]

theorem mem_update {entries other : Entries} {e : String × Datum} (h : e ∈ entries.update other) :
    e ∈ entries ∨ e ∈ other := by
  induction other generalizing entries with
  | nil => exact .inl h
  | cons first rest ih =>
    rcases ih h with hmem | hmem
    · rcases mem_setEntry hmem with rfl | hmem
      · exact .inr List.mem_cons_self
      · exact .inl hmem
    · exact .inr (List.mem_cons_of_mem _ hmem)

theorem IsDeclared.update {entries other : Entries} (h : entries.IsDeclared)
    (hother : other.IsDeclared) : (entries.update other).IsDeclared := fun e he =>
  (mem_update he).elim (h e) (hother e)

theorem Avoids.update {names : List String} {entries other : Entries} (h : entries.Avoids names)
    (hother : other.Avoids names) (honce : (other.map Prod.fst).Nodup) :
    (entries.update other).Avoids names := by
  intro name hname
  rw [lookup_update entries honce, h name hname, hother name hname]
  rfl

end Entries

/-! ## The configuration file -/

theorem textOfFile_eq_ok {contents : ByteArray} {text : String} :
    textOfFile contents = .ok text ↔ String.fromUTF8? contents = some text := by
  unfold textOfFile Encoding.decode Utf8.decode
  cases String.fromUTF8? contents with
  | none => exact ⟨nofun, nofun⟩
  | some s => exact ⟨fun h => by cases h; rfl, fun h => by cases h; rfl⟩

theorem textOfFile_eq_error {contents : ByteArray} (h : String.fromUTF8? contents = none) :
    ∃ err, textOfFile contents = .error err ∧ err.isAboutConfig = false := by
  unfold textOfFile Encoding.decode Utf8.decode
  rw [h]
  exact ⟨_, rfl, rfl⟩

/-- A file is TOML with given entries, which the stack is deep enough to read. -/
def ConfigFile.Holds (reaches : String → Bool) (file : ConfigFile) (entries : Entries) : Prop :=
  file.path.contains '\x00' = false ∧ ∃ bytes text, file.contents = some bytes ∧
    String.fromUTF8? bytes = some text ∧ reaches text = true ∧ Toml.parse text = .ok entries

/-- A file that is written holds what its text says. -/
theorem ConfigFile.holds_of_parse {reaches : String → Bool} {path text : String} {entries : Entries}
    (hpath : path.contains '\x00' = false) (hreach : reaches text = true)
    (h : (Toml.parse text).toOption = some entries) :
    ConfigFile.Holds reaches ⟨path, some text.toUTF8⟩ entries := by
  have hparse : Toml.parse text = .ok entries := by
    cases hresult : Toml.parse text with
    | ok parsed => rw [hresult] at h; exact congrArg _ (Option.some.inj h)
    | error e => rw [hresult] at h; cases h
  exact ⟨hpath, text.toUTF8, text, rfl, dif_pos text.isValidUTF8, hreach, hparse⟩

/-- Where the settings are in a configuration file: in a table of their own, or at the top level if
the file has no entry of that name. Without a file there are none. -/
inductive ConfigFile.Gives (reaches : String → Bool) : Option ConfigFile → Entries → Prop
  | nothing : Gives reaches none []
  | topLevel {file : ConfigFile} {entries : Entries} : file.Holds reaches entries →
      (∀ e ∈ entries, e.1 ≠ configTable) → Gives reaches (some file) entries
  | ownTable {file : ConfigFile} {entries table : Entries} : file.Holds reaches entries →
      entries.lookup configTable = some (.table table) → Gives reaches (some file) table

namespace Settings

variable {reaches : String → Bool}

theorem fileTable_of_holds {file : ConfigFile} {entries : Entries}
    (h : file.Holds reaches entries) :
    fileTable file reaches = match entries.lookup configTable with
      | none => .ok entries
      | some (.table table) => .ok table
      | some _ => .error (.notATable file.path) := by
  obtain ⟨hpath, bytes, text, hbytes, htext, hreach, hparse⟩ := h
  simp only [fileTable, hpath, hbytes, textOfFile_eq_ok.mpr htext, bind, Except.bind,
    hreach, hparse]
  rfl

theorem givenTable_of_gives {file : Option ConfigFile} {table : Entries}
    (h : ConfigFile.Gives reaches file table) (overrides : Entries) :
    givenTable reaches file overrides = .ok (table.update overrides) := by
  cases h with
  | nothing => rfl
  | topLevel hholds hnone =>
    have hlookup : table.lookup configTable = none := by
      rw [List.lookup_eq_none_iff]
      grind
    simp only [givenTable, fileTable_of_holds hholds, hlookup, bind, Except.bind]
  | ownTable hholds htable =>
    simp only [givenTable, fileTable_of_holds hholds, htable, bind, Except.bind]

/-- A configuration file gives one table at most. -/
theorem gives_unique {file : Option ConfigFile} {table other : Entries}
    (h : ConfigFile.Gives reaches file table) (hother : ConfigFile.Gives reaches file other) :
    table = other :=
  Except.ok.inj ((givenTable_of_gives h []).symm.trans (givenTable_of_gives hother []))

theorem load_of_gives {e : Environment} {file : Option ConfigFile} {table overrides : Entries}
    (h : ConfigFile.Gives e.reaches file table) (hfile : overrides.lookup fileArgument = none) :
    load e file overrides = ofTable e (table.update overrides) := by
  rw [load, hfile, givenTable_of_gives h]
  rfl

/-! ## Sources -/

/-- Sources name fields properly: the configuration file gives a table and the environment file is a
text, fields go by their own names in the table and the overrides, which hold none of the library's
own keyword arguments, overrides name nothing twice, and variables name each field at most once, the
list of disabled rules as JSON. -/
structure AreProper (e : Environment) (file : Option ConfigFile) (overrides table : Entries)
    (bound : EnvFile.Bound) : Prop where
  table_given : ConfigFile.Gives e.reaches file table
  bound_given : e.library.fileBound? e.toOutside = some bound
  table_declared : table.IsDeclared
  overrides_declared : overrides.IsDeclared
  overrides_once : (overrides.map Prod.fst).Nodup
  overrides_file : overrides.lookup fileArgument = none
  table_own : table.Avoids e.library.keywords
  overrides_own : overrides.Avoids e.library.keywords
  vars_once : NamesOnce e.bound
  bound_once : NamesOnce bound
  vars_readable : e.library.IsReadable e.bound
  bound_readable : e.library.IsReadable bound

/-- The value that the strongest source gives a field. -/
def strongest (lib : Library) (overrides table : Entries) (vars bound : EnvFile.Bound) (f : Field) :
    Option Datum :=
  overrides.lookup f.name <|> table.lookup f.name <|> lib.variableValue vars f.name <|>
    lib.variableValue bound f.name

/-- What is collected for a field stands for what is given for it. -/
inductive StandsFor : Option Datum → Option Datum → Prop
  | nothing : StandsFor none none
  | alike {given collected : Datum} : given.Alike collected →
    StandsFor (some given) (some collected)

variable {e : Environment} {file : Option ConfigFile} {overrides table : Entries}
  {bound : EnvFile.Bound}

theorem AreProper.collectible (h : AreProper e file overrides table bound) :
    e.library.Collectible e.toOutside (table.update overrides) bound where
  args_own := h.table_own.update h.overrides_own h.overrides_once
  args_declared := h.table_declared.update h.overrides_declared
  file := h.bound_given
  vars_once := h.vars_once
  bound_once := h.bound_once
  vars_readable := h.vars_readable
  bound_readable := h.bound_readable

/-- What is collected from proper sources stands for the value of the strongest one. -/
theorem standsFor_strongest (hlib : e.library.Documented)
    (h : AreProper e file overrides table bound) {values : Entries}
    (hvalues : e.library.Collects e.toOutside (table.update overrides) bound values) (f : Field) :
    StandsFor (strongest e.library overrides table e.bound bound f) (values.lookup f.name) := by
  have hargs : (table.update overrides).lookup f.name =
      (overrides.lookup f.name).or (table.lookup f.name) := table.lookup_update h.overrides_once _
  have hstrongest : strongest e.library overrides table e.bound bound f =
      (((table.update overrides).lookup f.name).or (e.library.variableValue e.bound f.name)).or
        (e.library.variableValue bound f.name) := by
    simp only [strongest, hargs, Option.orElse_eq_orElse, Option.orElse_eq_or, Option.or_assoc]
  rw [hstrongest]
  cases hgiven : (table.update overrides).lookup f.name with
  | some d =>
    obtain ⟨v, hv, halike⟩ := hlib.arguments_first hvalues f hgiven
    exact hv ▸ .alike halike
  | none =>
    cases hvars : e.library.variableValue e.bound f.name with
    | some d =>
      obtain ⟨v, hv, halike⟩ := hlib.environment_next hvalues f hgiven hvars
      exact hv ▸ .alike halike
    | none =>
      cases hfile : e.library.variableValue bound f.name with
      | some d =>
        obtain ⟨v, hv, halike⟩ := hlib.file_last hvalues f hgiven hvars hfile
        exact hv ▸ .alike halike
      | none =>
        rw [hlib.nothing_else hvalues f hgiven hvars hfile]
        exact .nothing

theorem ofTable_eq {values : Entries}
    (h : e.library.collect configuration e.toOutside table = .ok values) :
    ofTable e table = (e.library.validate (schema e.library) values).mapError .invalidValues := by
  rw [ofTable, h]
  rfl

/-- From proper sources values are collected, and settings made of them. -/
theorem exists_values (hlib : e.library.Documented) (h : AreProper e file overrides table bound) :
    ∃ values, load e file overrides =
        (e.library.validate (schema e.library) values).mapError .invalidValues ∧
      ∀ f : Field,
        StandsFor (strongest e.library overrides table e.bound bound f) (values.lookup f.name) := by
  obtain ⟨values, hvalues⟩ := hlib.collects h.collectible
  refine ⟨values, ?_, standsFor_strongest hlib h hvalues⟩
  rw [load_of_gives h.table_given h.overrides_file, ofTable_eq hvalues.collected]

/-! ## Fields -/

/-- There are settings with any values. -/
theorem exists_get_eq (value : (f : Field) → f.Value) : ∃ s : Settings, ∀ f, f.get s = value f :=
  ⟨Schema.ofParts ((value .lineDelimiter, value .lineLimit, value .allowedIndent, value .tabSize),
    (value .singleQuote, value .upperKeyword), value .dialect, value .disabledRules, value .debug),
    fun f => by cases f <;> rfl⟩

/-- There are settings with what is given just if all of it is valid. -/
theorem exists_has_iff {lib : Library} {value : Field → Option Datum} :
    (∃ s : Settings, ∀ f : Field, f.Has lib (value f) s) ↔
      ∀ f : Field, f.Accepts lib (value f) := by
  constructor
  · rintro ⟨s, hs⟩ f given hgiven
    have hf := hs f
    rw [Field.Has, Option.mem_def.mp hgiven] at hf
    exact ⟨f.get s, hf⟩
  · intro h
    have hvalue (f : Field) : ∃ v : f.Value,
        (value f).elim (v = f.get {}) fun given => f.Takes lib given v := by
      cases hf : value f with
      | none => exact ⟨_, rfl⟩
      | some given => exact h f given hf
    obtain ⟨s, hs⟩ := exists_get_eq fun f => (hvalue f).choose
    refine ⟨s, fun f => ?_⟩
    rw [Field.Has, hs f]
    exact (hvalue f).choose_spec

variable {lib : Library} {value : Field → Option Datum} {values : Entries}

/-- Settings made of values have what these stand for. -/
theorem validate_eq_ok_iff (hlib : lib.Documented)
    (h : ∀ f : Field, StandsFor (value f) (values.lookup f.name)) {s : Settings} :
    lib.validate (schema lib) values = .ok s ↔ ∀ f : Field, f.Has lib (value f) s := by
  refine hlib.validate_ok.trans (forall_congr' fun f => ?_)
  have hf := h f
  revert hf
  cases value f <;> cases values.lookup f.name <;> intro hf <;> cases hf
  case nothing => exact Iff.rfl
  case alike given collected halike =>
    exact rule_eq_ok.trans (f.takes_congr hlib halike _).symm

/-- Complaints about values name just the fields for which something invalid is given. -/
theorem exists_mem_validate_errors (hlib : lib.Documented)
    (h : ∀ f : Field, StandsFor (value f) (values.lookup f.name)) {errors : List FieldError}
    (herrors : lib.validate (schema lib) values = .error errors) (name : String) :
    (∃ error ∈ errors, error.field = name) ↔
      ∃ f : Field, f.name = name ∧ ¬ f.Accepts lib (value f) := by
  have hfield (f : Field) : (∃ d, values.lookup f.name = some d ∧
      ∃ error ∈ (rule lib f d).errors, error.field = name) ↔
      f.name = name ∧ ¬ f.Accepts lib (value f) := by
    simp only [f.exists_mem_errors_rule hlib]
    have hf := h f
    revert hf
    cases value f <;> cases values.lookup f.name <;> intro hf <;> cases hf
    case nothing => simp [Field.Accepts]
    case alike given collected halike => simp [Field.Accepts, f.takes_congr hlib halike]
  simp only [hlib.validate_error herrors, ← hfield]
  constructor
  · rintro ⟨error, ⟨f, d, hd, herror⟩, hname⟩
    exact ⟨f, d, hd, error, herror, hname⟩
  · rintro ⟨f, d, hd, error, herror, hname⟩
    exact ⟨error, ⟨f, d, hd, herror⟩, hname⟩

/-! ## The strongest source decides -/

/-- Settings are loaded from proper sources just if every field accepts the value of the strongest
source that names it, and then have these values, and their defaults where no source names a field.
Otherwise complaints are about just the fields that do not accept theirs. -/
theorem load_takes_strongest (hlib : e.library.Documented)
    (h : AreProper e file overrides table bound) :
    let value := strongest e.library overrides table e.bound bound
    ((∃ s, load e file overrides = .ok s) ↔ ∀ f : Field, f.Accepts e.library (value f)) ∧
    (∀ s, load e file overrides = .ok s → ∀ f : Field, f.Has e.library (value f) s) ∧
    ((∃ f : Field, ¬ f.Accepts e.library (value f)) →
      ∃ errors, load e file overrides = .error (.invalidValues errors) ∧
        ∀ name, (∃ error ∈ errors, error.field = name) ↔
          ∃ f : Field, f.name = name ∧ ¬ f.Accepts e.library (value f)) := by
  intro value
  obtain ⟨values, hload, hstands⟩ := exists_values hlib h
  have hok (s : Settings) :
      load e file overrides = .ok s ↔ ∀ f : Field, f.Has e.library (value f) s := by
    rw [← validate_eq_ok_iff hlib hstands, hload, mapError_eq_ok]
  refine ⟨?_, fun s => (hok s).mp, fun ⟨f, hf⟩ => ?_⟩
  · simp only [hok, exists_has_iff]
  · cases hresult : e.library.validate (schema e.library) values with
    | ok s =>
      have hall := (validate_eq_ok_iff hlib hstands).mp hresult
      exact absurd (exists_has_iff.mp ⟨s, hall⟩ f) hf
    | error errors =>
      exact ⟨errors, by rw [hload, hresult]; rfl,
        exists_mem_validate_errors hlib hstands hresult⟩

/-- The environment has a good list of disabled rules, its file a bad one. -/
def contendingEnvironment : Environment where
  vars := [("sqllint_disabled_rules", "[\"alias\"]")]
  look p :=
    if p = Path.ofString ".env" then some (.file (some "SQLLINT_DISABLED_RULES=7\n".toUTF8))
    else none

/-- What is at the top level is bad, and so is what the table says about keywords. -/
def contendingFile : ConfigFile where
  path := "c.toml"
  contents := some "tab_size = 0\n[sqllint]\nupper_keyword = 2\n".toUTF8

/-- What the overrides say about keywords is good, but the dialect is bad. -/
def contendingOverrides : Entries := [("dialect", .text "none"), ("upper_keyword", .bool false)]

theorem contendingFile_holds : contendingFile.Holds (fun _ => true)
    [("tab_size", .int 0), ("sqllint", .table [("upper_keyword", .int 2)])] :=
  ConfigFile.holds_of_parse (by simp) rfl (by decide +kernel)

theorem contending_areProper : AreProper contendingEnvironment (some contendingFile)
    contendingOverrides [("upper_keyword", .int 2)] [("SQLLINT_DISABLED_RULES", some "7")] where
  table_given := .ownTable contendingFile_holds rfl
  bound_given := by decide +kernel
  table_declared := by decide +kernel
  overrides_declared := by decide +kernel
  overrides_once := by decide
  overrides_file := by decide +kernel
  table_own := by decide +kernel
  overrides_own := by decide +kernel
  vars_once := by decide +kernel
  bound_once := by decide +kernel
  vars_readable := by decide +kernel
  bound_readable := by decide +kernel

/-- Only the dialect is to blame. -/
theorem load_takes_strongest_contending :
    ∃ errors, load contendingEnvironment (some contendingFile) contendingOverrides =
        .error (.invalidValues errors) ∧
      ∀ name, (∃ error ∈ errors, error.field = name) ↔ name = "dialect" := by
  obtain ⟨-, -, hblame⟩ := load_takes_strongest Library.standard_documented contending_areProper
  have hbad : ∀ f : Field, ¬ f.Accepts contendingEnvironment.library
      (strongest contendingEnvironment.library contendingOverrides [("upper_keyword", .int 2)]
        contendingEnvironment.bound [("SQLLINT_DISABLED_RULES", some "7")] f) ↔ f = .dialect := by
    intro f
    cases f <;> decide +kernel
  obtain ⟨errors, herrors, hfields⟩ := hblame ⟨.dialect, (hbad _).mpr rfl⟩
  refine ⟨errors, herrors, fun name => (hfields name).trans ?_⟩
  simp only [hbad, exists_eq_right]
  exact eq_comm

/-- Three things are not as the order of strength has it: null in a variable says nothing about the
list of disabled rules, though it is JSON and no list; an environment file that is no text lets
nothing be loaded; and some keys of a table name no field but are not ignored either. -/
theorem strongest_overlooked :
    (Json.parse? "null" = some .null ∧ ¬ Field.disabledRules.Accepts Library.standard (some .null) ∧
      ∃ s, load { vars := [("SQLLINT_DISABLED_RULES", "null")] } none [] = .ok s ∧
        s.disabledRules = []) ∧
    (∃ err, load { look := fun _ => some (.file (some ⟨#[0xff]⟩)) } none [] = .error err ∧
      err.isAboutConfig = false) ∧
    (ConfigFile.Gives (fun _ => true) (some ⟨"c.toml", some "_env_prefix = \"X_\"\n".toUTF8⟩)
        [("_env_prefix", .text "X_")] ∧
      ∃ s, load { vars := [("SQLLINT_DEBUG", "true")] }
        (some ⟨"c.toml", some "_env_prefix = \"X_\"\n".toUTF8⟩) [] = .ok s ∧ s.debug = false) := by
  have hnull : (load { vars := [("SQLLINT_DISABLED_RULES", "null")] } none []).toOption.map
      disabledRules = some [] := by
    decide +kernel
  have hfails : (errorOf? (load { look := fun _ => some (.file (some ⟨#[0xff]⟩)) } none [])).map
      ConfigError.isAboutConfig = some false := by
    decide +kernel
  have hgives : ConfigFile.Gives (fun _ => true)
      (some ⟨"c.toml", some "_env_prefix = \"X_\"\n".toUTF8⟩)
      [("_env_prefix", .text "X_")] :=
    .topLevel (ConfigFile.holds_of_parse (by simp) rfl (by decide +kernel)) (by decide)
  have hload : load { vars := [("SQLLINT_DEBUG", "true")] }
      (some ⟨"c.toml", some "_env_prefix = \"X_\"\n".toUTF8⟩) [] =
      ofTable { vars := [("SQLLINT_DEBUG", "true")] } [("_env_prefix", .text "X_")] :=
    load_of_gives hgives rfl
  have hdebug : (ofTable { vars := [("SQLLINT_DEBUG", "true")] }
      [("_env_prefix", .text "X_")]).toOption.map debug = some false := by
    decide +kernel
  exact ⟨⟨by decide +kernel, by decide +kernel, exists_eq_ok_of_toOption hnull⟩,
    exists_eq_error_of_errorOf? hfails, hgives, hload ▸ exists_eq_ok_of_toOption hdebug⟩

end Settings

end SqlStyle
