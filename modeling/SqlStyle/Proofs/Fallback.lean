import SqlStyle.Proofs.Precedence
import SqlStyle.Proofs.Runs

/-! # Settings in spite of a bad configuration file

A run takes its settings from the configuration file and the environment, or from the environment
alone if this is not possible, and ends with status 2 if that is not possible either. This holds,
with every settings library, as long as the file is legible and the library collects values;
otherwise the run breaks off without a status (`loadSettings_falls_back`). -/

namespace SqlStyle

/-- A configuration file is legible: if it can be opened at all it is a text, be it TOML or not,
that the stack is deep enough to read, and no integer in it has too many digits. -/
def ConfigFile.IsLegible (reaches : String → Bool) (file : ConfigFile) : Prop :=
  file.path.contains '\x00' = false ∧ ∀ bytes, file.contents = some bytes →
    ∃ text, String.fromUTF8? bytes = some text ∧ reaches text = true ∧
      ∀ digits, Toml.parse text ≠ .error (.oversized digits)

/-- The library collects values from keyword arguments and the outside. -/
def Environment.Collects (e : Environment) (args : Entries) : Prop :=
  ∃ values, e.library.collect Settings.configuration e.toOutside args = .ok values

/-- Whether loading has a result that a run can go on with: settings, or an error about the
configuration. -/
def IsHandled {α : Type} : Except ConfigError α → Prop
  | .ok _ => True
  | .error e => e.isAboutConfig = true

namespace Settings

variable {reaches : String → Bool}

theorem isLegible_of_holds {file : ConfigFile} {entries : Entries}
    (h : file.Holds reaches entries) : file.IsLegible reaches := by
  obtain ⟨hpath, bytes, text, hbytes, htext, hreach, hparse⟩ := h
  refine ⟨hpath, fun bytes' hbytes' => ?_⟩
  obtain rfl : bytes = bytes' := Option.some.inj (hbytes.symm.trans hbytes')
  exact ⟨text, htext, hreach, by simp [hparse]⟩

/-- In a file that is TOML, the settings are where they should be, or their entry is no table. -/
theorem gives_or_notATable {file : ConfigFile} {entries : Entries}
    (h : file.Holds reaches entries) : (∃ table, ConfigFile.Gives reaches (some file) table) ∨
      fileTable file reaches = .error (.notATable file.path) := by
  rw [fileTable_of_holds h]
  cases hlookup : entries.lookup configTable with
  | none => exact .inl ⟨entries, .topLevel h (by grind [List.lookup_eq_none_iff])⟩
  | some d =>
    cases d with
    | table table => exact .inl ⟨table, .ownTable h hlookup⟩
    | _ => exact .inr rfl

/-- The text of a configuration file gives a table, or else an error that a run can go on with just
if the file is legible. -/
theorem gives_or_error_of_text {file : ConfigFile} {bytes : ByteArray} {text : String}
    (hpath : file.path.contains '\x00' = false) (hbytes : file.contents = some bytes)
    (htext : String.fromUTF8? bytes = some text) :
    (∃ table, ConfigFile.Gives reaches (some file) table) ∨ ∃ e,
      fileTable file reaches = .error e ∧ (e.isAboutConfig = true ↔ file.IsLegible reaches) := by
  have hlegible : file.IsLegible reaches ↔
      reaches text = true ∧ ∀ digits, Toml.parse text ≠ .error (.oversized digits) := by
    simp [ConfigFile.IsLegible, hpath, hbytes, htext]
  have hok := textOfFile_eq_ok.mpr htext
  cases hreach : reaches text with
  | false =>
    refine .inr ⟨.nestedTooDeep, ?_, by simp [hlegible, hreach, ConfigError.isAboutConfig]⟩
    simp [fileTable, hpath, hbytes, hok, hreach, bind, Except.bind]
  | true =>
    cases hparse : Toml.parse text with
    | error flaw =>
      cases flaw with
      | malformed =>
        refine .inr ⟨.invalidToml file.path, ?_,
          by simp [hlegible, hreach, hparse, ConfigError.isAboutConfig]⟩
        simp [fileTable, hpath, hbytes, hok, hreach, hparse, bind, Except.bind]
      | oversized digits =>
        refine .inr ⟨.oversizedInteger digits, ?_,
          by simp [hlegible, hparse, ConfigError.isAboutConfig]⟩
        simp [fileTable, hpath, hbytes, hok, hreach, hparse, bind, Except.bind]
    | ok entries =>
      have hholds : file.Holds reaches entries :=
        ⟨hpath, bytes, text, hbytes, htext, hreach, hparse⟩
      refine (gives_or_notATable hholds).imp_right fun h => ?_
      exact ⟨_, h, by simp [hlegible, hreach, hparse, ConfigError.isAboutConfig]⟩

theorem gives_or_error (reaches : String → Bool) (file : ConfigFile) :
    (∃ table, ConfigFile.Gives reaches (some file) table) ∨ ∃ e,
      fileTable file reaches = .error e ∧ (e.isAboutConfig = true ↔ file.IsLegible reaches) := by
  cases hpath : file.path.contains '\x00' with
  | true =>
    exact .inr ⟨.impossiblePath, if_pos hpath,
      by simp [ConfigError.isAboutConfig, ConfigFile.IsLegible, hpath]⟩
  | false =>
    cases hbytes : file.contents with
    | none =>
      refine .inr ⟨.unreadable file.path, by simp [fileTable, hpath, hbytes], ?_⟩
      simp [ConfigError.isAboutConfig, ConfigFile.IsLegible, hpath, hbytes]
    | some bytes =>
      cases htext : String.fromUTF8? bytes with
      | none =>
        obtain ⟨e, he, habout⟩ := textOfFile_eq_error htext
        refine .inr ⟨e, by simp [fileTable, hpath, hbytes, he, bind, Except.bind], ?_⟩
        simp [habout, ConfigFile.IsLegible, hbytes, htext]
      | some text => exact gives_or_error_of_text hpath hbytes htext

theorem isLegible_of_gives {file : ConfigFile} {table : Entries}
    (h : ConfigFile.Gives reaches (some file) table) : file.IsLegible reaches := by
  cases h with
  | topLevel hholds _ => exact isLegible_of_holds hholds
  | ownTable hholds _ => exact isLegible_of_holds hholds

/-- The library's complaints about values are errors of the configuration; nothing else it fails
with is. -/
theorem isHandled_ofTable (e : Environment) (table : Entries) :
    IsHandled (ofTable e table) ↔ e.Collects table := by
  cases hcollect : e.library.collect configuration e.toOutside table with
  | error err =>
    have herror : ofTable e table = .error (.lookup err) := by
      rw [ofTable, hcollect]
      rfl
    simp [herror, IsHandled, ConfigError.isAboutConfig, Environment.Collects, hcollect]
  | ok values =>
    rw [ofTable_eq hcollect]
    refine iff_of_true ?_ ⟨values, hcollect⟩
    cases e.library.validate (schema e.library) values with
    | ok s => trivial
    | error errors => rfl

/-- Loading can be gone on with if the file is legible and values are collected with its table. -/
theorem isHandled_load (e : Environment) (file : Option ConfigFile) :
    IsHandled (load e file []) ↔ (∀ f ∈ file, f.IsLegible e.reaches) ∧
      ∀ table, ConfigFile.Gives e.reaches file table → e.Collects table := by
  have hgiven {table : Entries} (h : ConfigFile.Gives e.reaches file table) :
      IsHandled (load e file []) ↔ e.Collects table := by
    rw [load_of_gives h rfl]
    exact isHandled_ofTable e table
  have honly {table : Entries} (h : ConfigFile.Gives e.reaches file table) :
      (∀ table', ConfigFile.Gives e.reaches file table' → e.Collects table') ↔ e.Collects table :=
    ⟨fun hall => hall table h, fun htable table' h' => gives_unique h h' ▸ htable⟩
  cases file with
  | none => simp [hgiven .nothing, honly .nothing]
  | some file =>
    simp only [Option.mem_def, Option.some.injEq, forall_eq']
    rcases gives_or_error e.reaches file with ⟨table, htable⟩ | ⟨err, herr, habout⟩
    · simp [hgiven htable, honly htable, isLegible_of_gives htable]
    · have hload : load e (some file) [] = .error err := by
        simp [load, givenTable, herr, fileArgument, bind, Except.bind]
      have hnone (table : Entries) : ¬ ConfigFile.Gives e.reaches (some file) table := by
        intro h
        have hok := givenTable_of_gives h []
        simp [givenTable, herr, bind, Except.bind] at hok
      simp [hload, IsHandled, habout, hnone]

end Settings

/-! ## Falling back -/

/-- A run goes on: the configuration file is legible, and the library collects values with its table
and, should these not do, without it. -/
def GoesOn (e : Environment) (file : Option ConfigFile) : Prop :=
  (∀ f ∈ file, f.IsLegible e.reaches) ∧
  (∀ table, ConfigFile.Gives e.reaches file table → e.Collects table) ∧
  ((∃ s, Settings.load e file [] = .ok s) ∨ e.Collects [])

variable {e : Environment} {file : Option ConfigFile}

theorem exists_loadSettings_eq_ok :
    (∃ loaded, loadSettings e file = .ok loaded) ↔ IsHandled (Settings.load e file []) ∧
      ((∃ s, Settings.load e file [] = .ok s) ∨ IsHandled (Settings.load e none [])) := by
  unfold loadSettings
  cases Settings.load e file [] with
  | ok s => simp [IsHandled]
  | error err =>
    cases habout : err.isAboutConfig with
    | false => simp [IsHandled, habout]
    | true =>
      unfold loadWithoutFile
      cases Settings.load e none [] with
      | ok s => simp [IsHandled, habout]
      | error err' => cases habout' : err'.isAboutConfig <;> simp [IsHandled, habout, habout']

/-- The settings of a run are those with the file, or else those without. -/
theorem settings_of_loadSettings {loaded : Loaded} (h : loadSettings e file = .ok loaded) :
    loaded.settings = ((Settings.load e file []).toOption <|>
        (Settings.load e none []).toOption) := by
  unfold loadSettings at h
  cases hfirst : Settings.load e file [] with
  | ok s => rw [hfirst] at h; cases h; rfl
  | error err =>
    simp only [hfirst, loadWithoutFile] at h
    split at h
    · cases hsecond : Settings.load e none [] with
      | ok s => rw [hsecond] at h; cases h; rfl
      | error err' =>
        simp only [hsecond] at h
        split at h <;> cases h
        rfl
    · cases h

/-- Settings are looked for to the end just if a run goes on. -/
theorem exists_loadSettings_iff :
    (∃ loaded, loadSettings e file = .ok loaded) ↔ GoesOn e file := by
  have hnothing : IsHandled (Settings.load e none []) ↔ e.Collects [] := by
    rw [Settings.load_of_gives .nothing rfl]
    exact Settings.isHandled_ofTable e []
  rw [exists_loadSettings_eq_ok, Settings.isHandled_load, hnothing, and_assoc]
  rfl

/-- With a library that does what it promises, and where values can be collected, only a file that
is not legible breaks a run off. -/
theorem goesOn_of_documented {bound : EnvFile.Bound} (hlib : e.library.Documented)
    (htable : ∀ table, ConfigFile.Gives e.reaches file table →
      e.library.Collectible e.toOutside table bound)
    (hnothing : e.library.Collectible e.toOutside [] bound) :
    GoesOn e file ↔ ∀ f ∈ file, f.IsLegible e.reaches := by
  have hcollects {args : Entries} (h : e.library.Collectible e.toOutside args bound) :
      e.Collects args := by
    obtain ⟨values, hvalues⟩ := hlib.collects h
    exact ⟨values, hvalues.collected⟩
  exact ⟨fun h => h.1, fun h => ⟨h, fun table hgives => hcollects (htable table hgives),
    .inr (hcollects hnothing)⟩⟩

/-! ## The status -/

/-- A run ends with status 2 just if it goes on without settings. -/
theorem exists_status_two {r : Surroundings} {o : Options} {format : Format}
    (hformat : Format.ofName? o.format = some format) :
    (∃ outcome, runLint r o = .ok outcome ∧ outcome.status = 2) ↔
      ∃ loaded, loadSettings r.environment (o.config.map r.configFile) = .ok loaded ∧
          loaded.settings = none := by
  simp only [runLint, hformat, bind, Except.bind]
  cases loadSettings r.environment (o.config.map r.configFile) with
  | error abort => simp
  | ok loaded =>
    cases hsettings : loaded.settings with
    | none => simp [hsettings]
    | some settings =>
      cases hrun : runWith r o format settings with
      | error abort => simp [hsettings, hrun]
      | ok checked => simpa [hsettings, hrun] using status_of_runWith hrun

/-- **Settings in spite of a bad file.** With every settings library, a run goes on if the
configuration file is legible and the library collects values, and only then. It has the settings of
file and environment together if these can be loaded, and otherwise those of the environment alone;
it ends with status 2 just if it goes on and neither can be loaded. With a library that does what it
promises, and where values can be collected, only a file that is not legible breaks a run off. -/
theorem loadSettings_falls_back (e : Environment) (file : Option ConfigFile) :
    ((∃ loaded, loadSettings e file = .ok loaded) ↔ GoesOn e file) ∧
    (∀ loaded, loadSettings e file = .ok loaded → loaded.settings =
      ((Settings.load e file []).toOption <|> (Settings.load e none []).toOption)) ∧
    (∀ (r : Surroundings) (o : Options) (format : Format), r.environment = e →
      o.config.map r.configFile = file → Format.ofName? o.format = some format →
        ((∃ outcome, runLint r o = .ok outcome ∧ outcome.status = 2) ↔ GoesOn e file ∧
          (Settings.load e file []).toOption = none ∧ (Settings.load e none []).toOption = none)) ∧
    ∀ bound : EnvFile.Bound, e.library.Documented →
      (∀ table, ConfigFile.Gives e.reaches file table →
        e.library.Collectible e.toOutside table bound) →
      e.library.Collectible e.toOutside [] bound →
        (GoesOn e file ↔ ∀ f ∈ file, f.IsLegible e.reaches) := by
  refine ⟨exists_loadSettings_iff, fun loaded => settings_of_loadSettings, ?_,
    fun bound => goesOn_of_documented⟩
  rintro r o format rfl rfl hformat
  rw [exists_status_two hformat, ← exists_loadSettings_iff]
  constructor
  · rintro ⟨loaded, hloaded, hnone⟩
    rw [settings_of_loadSettings hloaded] at hnone
    exact ⟨⟨loaded, hloaded⟩, by simpa [Option.or_eq_none_iff] using hnone⟩
  · rintro ⟨⟨loaded, hloaded⟩, hfile, henvironment⟩
    exact ⟨loaded, hloaded, by rw [settings_of_loadSettings hloaded, hfile, henvironment]; rfl⟩

/-- A limit of zero in the file is passed over. -/
theorem loadSettings_falls_back_zero_limit :
    ∃ loaded, loadSettings {} (some ⟨"c.toml", some "line_limit = 0\n".toUTF8⟩) = .ok loaded ∧
      loaded.settings.map Settings.lineLimit = some ⟨100, by decide⟩ := by
  have hholds : ConfigFile.Holds (fun _ => true) ⟨"c.toml", some "line_limit = 0\n".toUTF8⟩
      [("line_limit", .int 0)] :=
    ConfigFile.holds_of_parse (by simp) rfl (by decide +kernel)
  have hgives : ConfigFile.Gives (fun _ => true) (some ⟨"c.toml", some "line_limit = 0\n".toUTF8⟩)
      [("line_limit", .int 0)] :=
    .topLevel hholds (by decide)
  have hnothing : Library.standard.Collectible {} [] [] :=
    ⟨by decide, by decide, rfl, by decide, by decide, by decide +kernel, by decide +kernel⟩
  have htable (table : Entries) (h : ConfigFile.Gives _ _ table) :
      Library.standard.Collectible {} table [] :=
    Settings.gives_unique hgives h ▸
      { hnothing with args_own := by decide, args_declared := by decide +kernel }
  obtain ⟨hgoesOn, hsettings, -, hlegible⟩ := loadSettings_falls_back {} (some
    ⟨"c.toml", some "line_limit = 0\n".toUTF8⟩)
  have hgoes := (hlegible [] Library.standard_documented htable hnothing).mpr
    (by simpa using Settings.isLegible_of_holds hholds)
  obtain ⟨loaded, hloaded⟩ := hgoesOn.mpr hgoes
  refine ⟨loaded, hloaded, ?_⟩
  rw [hsettings loaded hloaded, Settings.load_of_gives hgives rfl]
  decide +kernel

/-- A configuration file that is no text does not end a run with a status, whatever the library and
though without the file the settings can be loaded; nor does a variable that should be JSON. -/
theorem loadSettings_breaks_off :
    (∀ e : Environment, ¬ ∃ loaded, loadSettings e (some ⟨"c.toml", some ⟨#[0xff]⟩⟩) = .ok loaded) ∧
    (∃ s, Settings.load {} none [] = .ok s) ∧
    ¬ ∃ loaded,
      loadSettings { vars := [("SQLLINT_DISABLED_RULES", "alias")] } none = .ok loaded := by
  have hdefault : (Settings.load {} none []).toOption.map Settings.debug = some false := by
    decide +kernel
  refine ⟨fun e h => ?_, ?_, ?_⟩
  · obtain ⟨-, hlegible⟩ := (exists_loadSettings_iff.mp h).1 _ rfl
    obtain ⟨text, htext, -⟩ := hlegible _ rfl
    have hnone : String.fromUTF8? ⟨#[0xff]⟩ = none := by decide +kernel
    rw [hnone] at htext
    cases htext
  · obtain ⟨s, hs, -⟩ := exists_eq_ok_of_toOption hdefault
    exact ⟨s, hs⟩
  · rw [exists_loadSettings_iff]
    rintro ⟨-, hcollects, -⟩
    obtain ⟨values, hvalues⟩ := hcollects [] .nothing
    have herror : (Library.standard.collect Settings.configuration
        { vars := [("SQLLINT_DISABLED_RULES", "alias")] } []).toOption = none := by
      decide +kernel
    rw [hvalues] at herror
    cases herror

end SqlStyle
