import SqlStyle.Datum.Reading
import SqlStyle.Text.Encoding

/-! # Why settings cannot be loaded

Errors about the configuration file and its values can be set right by another file; a run goes on
without it. The others end a run, among them all that keeps variables from being looked up. -/

namespace SqlStyle

/-- A value of a type that is of no use where it stands; each names the type. -/
inductive Misuse where
  /-- It holds no paths. -/
  | notIterable (type : String)
  /-- It is no path. -/
  | notAPath (type : String)
  /-- It is nothing that a name could begin with. -/
  | withoutLength (type : String)
  /-- It is no number of parts. -/
  | notSubtractable (type : String)
  /-- It names no encoding. -/
  | notAnEncoding (type : String)
deriving Repr, DecidableEq

def Misuse.message : Misuse → String
  | notIterable type => s!"'{type}' object is not iterable"
  | notAPath type => s!"expected str, bytes or os.PathLike object, not {type}"
  | withoutLength type => s!"object of type '{type}' has no len()"
  | notSubtractable type => s!"unsupported operand type(s) for -: '{type}' and 'int'"
  | notAnEncoding type => s!"open() argument 'encoding' must be str or None, not {type}"

/-- Why values for settings could not be collected. -/
inductive LookupError where
  /-- A variable that should hold JSON does not. -/
  | invalidVariable (field : String)
  /-- An environment file is there but cannot be opened. -/
  | closedEnvFile (path : String)
  /-- An environment file is no text. -/
  | undecodable (fault : DecodeError)
  /-- The variable for a field cannot be looked up. -/
  | lostVariable (field : String)
  /-- A key that says how variables are looked up has a value of no use. -/
  | misused (misuse : Misuse)
  | unknownEncoding (name : String)
  /-- A path starts at the home of somebody unknown. -/
  | unknownHome
  /-- Secrets are looked for in a file. -/
  | secretsInFile
  /-- Arguments are given as something else than a list. -/
  | invalidArguments (type : String)
  /-- Anything else. -/
  | other (message : String)
deriving Repr, DecidableEq

def LookupError.message : LookupError → String
  | invalidVariable field => s!"error parsing value for field \"{field}\""
  | closedEnvFile path => s!"Permission denied: '{path}'"
  | undecodable fault => fault.message
  | lostVariable field => s!"error getting value for field \"{field}\""
  | misused misuse => misuse.message
  | unknownEncoding name => s!"unknown encoding: {name}"
  | unknownHome => "Could not determine home directory."
  | secretsInFile => "secrets_dir must reference a directory, not a file"
  | invalidArguments type =>
    s!"cli_parse_args must be a list or tuple of strings, received <class '{type}'>"
  | other message => message

/-- Why settings could not be loaded. -/
inductive ConfigError where
  /-- The file cannot be opened. -/
  | unreadable (path : String)
  /-- The path is none that a file could have. -/
  | impossiblePath
  /-- The file is no text. -/
  | undecodable (fault : DecodeError)
  | invalidToml (path : String)
  /-- An integer in the file has too many digits. -/
  | oversizedInteger (digits : Nat)
  /-- Values in the file are nested too deeply for the stack. -/
  | nestedTooDeep
  /-- The settings entry of the file is not a table. -/
  | notATable (path : String)
  | invalidValues (errors : List FieldError)
  /-- Values could not be collected. -/
  | lookup (error : LookupError)
  /-- The file is given, and an override names another. -/
  | fileGivenTwice
deriving Repr, DecidableEq

/-- The name of the settings table in a configuration file. -/
def configTable : String := "sqllint"

/-- The name under which the configuration file itself is given, which no override may have. -/
def fileArgument : String := "config_file"

namespace ConfigError

def message : ConfigError → String
  | unreadable path => s!"Cannot read config file {path}"
  | impossiblePath => "embedded null byte"
  | undecodable fault => fault.message
  | invalidToml path => s!"Invalid TOML in {path}"
  | oversizedInteger digits =>
    s!"Exceeds the limit ({digitLimit} digits) for integer string conversion: " ++
      s!"value has {digits} digits; use sys.set_int_max_str_digits() to increase the limit"
  | nestedTooDeep => "maximum recursion depth exceeded"
  | notATable path => s!"[{configTable}] in {path} must be a table"
  | invalidValues _ => "Invalid linter settings"
  | lookup error => error.message
  | fileGivenTwice => s!"got multiple values for argument '{fileArgument}'"

/-- The error is about files or values that a configuration file could set right. The others end a
run. -/
def isAboutConfig : ConfigError → Bool
  | unreadable _ | invalidToml _ | notATable _ | invalidValues _ => true
  | _ => false

end ConfigError

end SqlStyle
