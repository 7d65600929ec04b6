import SqlStyle.Text.Basic

/-! # Arguments of the command line

A command is named first and followed by its options and paths in any order. An option with a value
takes the rest of its own argument, or else the next argument whatever that looks like; of two
settings of one option the later counts. After a pair of dashes everything is a path. -/

namespace SqlStyle

/-- How a document is to be checked and its report written. -/
structure Options where
  paths : List String := []
  config : Option String := none
  format : String := "text"
  /-- Syntax trees are shown. -/
  showTrees : Bool := false
  /-- One statement is read from standard input. -/
  quick : Bool := false
  verbose : Bool := false
deriving Repr, DecidableEq

/-- What an option does. -/
inductive OptionEffect where
  | flag (apply : Options → Options)
  | valued (apply : String → Options → Options)

inductive Command where
  /-- Checks documents. -/
  | lint (options : Options)
  /-- Lists the rules. -/
  | rules
deriving Repr, DecidableEq

namespace Options

def setConfig : OptionEffect := .valued fun value o => { o with config := some value }

def setFormat : OptionEffect := .valued fun value o => { o with format := value }

def setVerbose : OptionEffect := .flag fun o => { o with verbose := true }

/-- The options with a long name. -/
def long? : String → Option OptionEffect
  | "config" => some setConfig
  | "format" => some setFormat
  | "parsed-ast" => some (.flag fun o => { o with showTrees := true })
  | "quick" => some (.flag fun o => { o with quick := true })
  | "verbose" => some setVerbose
  | _ => none

/-- The options with a letter. -/
def short? : Char → Option OptionEffect
  | 'c' => some setConfig
  | 'f' => some setFormat
  | 'v' => some setVerbose
  | _ => none

/-- What an argument asks for. -/
inductive Request where
  | path
  | endOfOptions
  | change (apply : Options → Options)
  /-- The next argument is the value of an option; flags before it take effect first. -/
  | needsValue (apply : String → Options → Options)
  | unknown

/-- A cluster of option letters. The first letter that takes a value ends it. -/
def cluster (apply : Options → Options) : List Char → Request
  | [] => .change apply
  | letter :: rest =>
    match short? letter with
    | none => .unknown
    | some (.flag f) => cluster (f ∘ apply) rest
    | some (.valued f) =>
      if rest.isEmpty then .needsValue fun value => f value ∘ apply
      else .change (f (String.ofList rest) ∘ apply)

/-- An option by its long name, with what follows an equals sign as its value. -/
def named (cs : List Char) : Request :=
  let name := String.ofList (cs.takeWhile (· != '='))
  let value := (cs.dropWhile (· != '=')).tail?.map String.ofList
  match long? name, value with
  | some (.flag f), none => .change f
  | some (.valued f), some value => .change (f value)
  | some (.valued f), none => .needsValue f
  | _, _ => .unknown

/-- Reads one argument. A single dash is a path. -/
def request (arg : String) : Request :=
  match arg.toList with
  | ['-', '-'] => .endOfOptions
  | '-' :: '-' :: cs => named cs
  | '-' :: letter :: letters => cluster id (letter :: letters)
  | _ => .path

/-- Reads arguments one after the other; there is no answer if they make no sense. -/
def read? (o : Options) : List String → Option Options
  | [] => some o
  | arg :: rest =>
    match request arg with
    | .path => read? { o with paths := o.paths ++ [arg] } rest
    | .endOfOptions => some { o with paths := o.paths ++ rest }
    | .change f => read? (f o) rest
    | .needsValue f =>
      match rest with
      | [] => none
      | value :: rest => read? (f value o) rest
    | .unknown => none

/-- The paths are such that files could have them. -/
def arePathsPossible (o : Options) : Bool :=
  (o.config.toList ++ o.paths).all fun path => !path.contains '\x00'

end Options

namespace Command

/-- The command with a name, from the arguments after it. -/
def named? (name : String) (args : List String) : Option Command :=
  if name == "lint" then ((Options.read? {} args).filter Options.arePathsPossible).map lint
  else if name == "rules" then if args.isEmpty || args == ["--"] then some rules else none
  else none

/-- The command that arguments ask for, if they make sense. -/
def ofArguments? : List String → Option Command
  | "--" :: name :: args => named? name args
  | name :: args => named? name args
  | [] => none

end Command

end SqlStyle
