import SqlStyle.Command.Documents
import SqlStyle.Engine
import SqlStyle.Report.Data
import SqlStyle.Settings.Load

/-! # Running a command

A run reads from a `Surroundings` (the files, the variables and the standard input) and results in
an `Outcome`: an exit status, the reports as output, and notes for the console. Settings that cannot
be used are replaced by those of the environment alone. The exit status is 0 if everything was
checked and clean, 1 if not, 2 if the arguments or the environment make no sense, and 3 if there is
nothing to do. -/

namespace SqlStyle

/-- What a run can read. -/
structure Surroundings where
  /-- What is at a path. -/
  look : Path → Option Entry
  vars : List (String × String) := []
  input : String := ""
  /-- What is known of SQL in each dialect. -/
  toolkit : Dialect → Toolkit
  /-- The library that settings are loaded with. -/
  library : Library := Library.standard
  /-- The stack is deep enough to read a text of nested values. -/
  reaches : String → Bool := fun _ => true

/-- What a run results in. -/
structure Outcome where
  status : Nat := 0
  /-- What is written to standard output. -/
  output : String := ""
  /-- What is shown on the console. -/
  notes : List Display := []
  /-- The reports to be summarised at the end. -/
  summarised : Option (List Report) := none

/-- What is shown on the console after a run of some length. -/
def Outcome.shown (o : Outcome) (elapsed : String) : List Display :=
  o.notes ++ o.summarised.toList.map (Display.summary · elapsed)

/-- Why a run has no outcome. -/
inductive Abort where
  /-- A file or a variable cannot be read. -/
  | config (error : ConfigError)
  /-- A collaborator gave up. -/
  | fault (fault : Fault)
deriving Repr, DecidableEq

/-! ## Settings -/

namespace Surroundings

/-- The bytes of the file at a path. -/
def fileBytes? (s : Surroundings) (p : Path) : Option ByteArray :=
  match s.look p with
  | some (.file contents) => contents
  | _ => none

/-- What settings are loaded in. -/
def environment (s : Surroundings) : Environment where
  vars := s.vars
  look := s.look
  library := s.library
  reaches := s.reaches

/-- The configuration file at a path. -/
def configFile (s : Surroundings) (path : String) : ConfigFile where
  path := toString (Path.ofString path)
  contents := s.fileBytes? (Path.ofString path)

end Surroundings

/-- Settings for a run, or that there are none, with what is shown about them. -/
structure Loaded where
  settings : Option Settings
  notes : List Display := []

/-- The settings of the environment alone, after a warning about a configuration file. -/
def loadWithoutFile (environment : Environment) (warning : Display) : Except Abort Loaded :=
  match Settings.load environment none [] with
  | .ok settings => .ok ⟨some settings, [warning]⟩
  | .error e =>
    let text := Text.escapeMarkup e.message
    if e.isAboutConfig then
      .ok ⟨none, [warning, .styled "red" s!"Invalid settings in environment: {text}"]⟩
    else .error (.config e)

/-- The settings for a run. A file that is no text and a variable that cannot be read end the
run. -/
def loadSettings (environment : Environment) (file : Option ConfigFile) : Except Abort Loaded :=
  match Settings.load environment file [] with
  | .ok settings => .ok ⟨some settings, []⟩
  | .error e =>
    let text := Text.escapeMarkup e.message
    if e.isAboutConfig then
      loadWithoutFile environment (.styled "yellow" s!"Warning: {text}. Using default settings.")
    else .error (.config e)

/-! ## Trees and reports -/

/-- The trees of a document up to the first statement that does not parse. -/
def showTrees (toolkit : Toolkit) (d : Document) : Except Abort (List Display) :=
  let title := (d.filename.filter (!·.isEmpty)).toList.map (Display.styled "bold" ·)
  let parse := toolkit.parse d.text
  match parse.stop with
  | some (.gaveUp fault) => .error (.fault fault)
  | _ => .ok (title ++ Display.statements d.text parse.statements)

/-- The report on a document under the built-in checks. -/
def reportOn (settings : Settings) (toolkit : Toolkit) (d : Document) : Except Abort Report :=
  match lint settings Registry.builtin toolkit d.text d.filename with
  | .ok progress => .ok progress.report
  | .error fault => .error (.fault fault)

/-- How reports are written. -/
inductive Format where
  | text
  | json
deriving Repr, DecidableEq

namespace Format

def ofName? : String → Option Format
  | "text" => some text
  | "json" => some json
  | _ => none

/-- Reports in a format. -/
def write (reports : List Report) : Format → String
  | text => String.join ((reports.flatMap Report.render).map (· ++ "\n"))
  | json => Json.render (.list (reports.map Report.toDatum)) ++ "\n"

end Format

/-- Checks documents and writes the reports. Only the text format is followed by a summary. -/
def checkDocuments (settings : Settings) (toolkit : Toolkit) (format : Format) (trees : Bool)
    (documents : List Document) : Except Abort Outcome := do
  let shown ← if trees then documents.mapM (showTrees toolkit) else .ok []
  let reports ← documents.mapM (reportOn settings toolkit)
  .ok { status := if reports.all Report.isClean then 0 else 1
        output := format.write reports
        notes := shown.flatten
        summarised := if format = .text then some reports else none }

/-! ## Commands -/

/-- The documents that options ask for, with what could not be used; none if they ask for
nothing. -/
def documentsFor (s : Surroundings) (o : Options) : Option (List Document × Collected) :=
  if o.quick then some ([Document.ofInput s.input], {})
  else if o.paths.isEmpty then none
  else
    let collected := Collected.ofPaths s.look (o.paths.map Path.ofString)
    some (collected.documents, collected)

/-- Checks what the options name under given settings. -/
def runWith (s : Surroundings) (o : Options) (format : Format) (settings : Settings) :
    Except Abort Outcome :=
  match documentsFor s o with
  | none =>
    .ok { status := 3
          notes :=
            [.styled "red" "No input paths given. Pass files or directories, or use --quick."] }
  | some (documents, collected) => do
    let outcome ← checkDocuments settings (s.toolkit settings.dialect) format o.showTrees documents
    .ok { outcome with
      status := if collected.isComplete then outcome.status else 1
      notes := collected.notes ++ outcome.notes }

/-- Runs the check of documents. -/
def runLint (s : Surroundings) (o : Options) : Except Abort Outcome :=
  match Format.ofName? o.format with
  | none =>
    .ok { status := 3
          notes := [.styled "red" s!"Invalid format '{o.format}'. Must be one of: text, json."] }
  | some format => do
    let loaded ← loadSettings s.environment (o.config.map s.configFile)
    match loaded.settings with
    | none => .ok { status := 2, notes := loaded.notes }
    | some settings =>
      let outcome ← runWith s o format settings
      .ok { outcome with notes := loaded.notes ++ outcome.notes }

/-- Runs a command. -/
def Command.run (s : Surroundings) : Command → Except Abort Outcome
  | lint options => runLint s options
  | rules => .ok { notes := [Display.rules Registry.builtin] }

/-- Runs the command that arguments ask for. Arguments that make no sense are not answered but by
the exit status. -/
def runArguments (s : Surroundings) (args : List String) : Except Abort Outcome :=
  match Command.ofArguments? args with
  | none => .ok { status := 2 }
  | some command => command.run s

end SqlStyle
