import SqlStyle.Datum.Toml
import SqlStyle.Settings.Standard

/-! # Loading settings

Settings come from, in order of strength: overrides given with the call, a configuration file, and
whatever the settings library finds outside. The configuration file is TOML, with the settings in a
table of their own or, without such a table, at its top level; overrides are set in that table, and
all of it is given to the library as keyword arguments. -/

namespace SqlStyle

/-- What settings are loaded in: the outside, and the library that collects and validates them. -/
structure Environment extends Outside where
  library : Library := Library.standard
  /-- The stack is deep enough to read a text of nested values. -/
  reaches : String → Bool := fun _ => true

/-- A configuration file by its path, with its contents if it can be opened. -/
structure ConfigFile where
  path : String
  contents : Option ByteArray

/-- The text of a configuration file. -/
def textOfFile (contents : ByteArray) : Except ConfigError String :=
  (Encoding.utf8.decode contents).mapError ConfigError.undecodable

namespace Settings

/-- The settings table of a configuration file. -/
def fileTable (file : ConfigFile) (reaches : String → Bool := fun _ => true) :
    Except ConfigError Entries :=
  if file.path.contains '\x00' then .error .impossiblePath
  else
    match file.contents with
    | none => .error (.unreadable file.path)
    | some contents => do
      let text ← textOfFile contents
      if reaches text then
        match Toml.parse text with
        | .error .malformed => .error (.invalidToml file.path)
        | .error (.oversized digits) => .error (.oversizedInteger digits)
        | .ok entries =>
          match entries.lookup configTable with
          | none => .ok entries
          | some (.table table) => .ok table
          | some _ => .error (.notATable file.path)
      else .error .nestedTooDeep

/-- The table of a configuration file, if there is one, with overrides set in it. -/
def givenTable (reaches : String → Bool) (file : Option ConfigFile) (overrides : Entries) :
    Except ConfigError Entries := do
  let table : Entries ← match file with
    | none => .ok []
    | some file => fileTable file reaches
  .ok (table.update overrides)

/-- The settings that the library makes of keyword arguments. Complaints about values are errors of
the configuration; whatever else the library fails with is passed on. -/
def ofTable (environment : Environment) (table : Entries) : Except ConfigError Settings := do
  let lib := environment.library
  let values ← (lib.collect configuration environment.toOutside table).mapError .lookup
  (lib.validate (schema lib) values).mapError .invalidValues

/-- Loads settings from all sources. -/
def load (environment : Environment) (file : Option ConfigFile) (overrides : Entries) :
    Except ConfigError Settings :=
  if (overrides.lookup fileArgument).isSome then .error .fileGivenTwice
  else (givenTable environment.reaches file overrides).bind (ofTable environment)

end Settings

end SqlStyle
