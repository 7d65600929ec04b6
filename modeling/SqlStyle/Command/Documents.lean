import SqlStyle.Command.Arguments
import SqlStyle.Display
import SqlStyle.Workspace.Entry

/-! # The documents of a run

Paths given on the command line are expanded into SQL files: a directory stands for all SQL files
below it in the order of their paths, a file for itself. What cannot be used is kept apart and
shown. -/

namespace SqlStyle

/-- A text to be checked, with the name it is reported under. -/
structure Document where
  filename : Option String
  text : Text

/-- What is found at given paths. -/
structure Collected where
  files : List (Path × Option ByteArray) := []
  /-- Files that are no SQL files. -/
  skipped : List Path := []
  missing : List Path := []

namespace Collected

/-- `a` does not stand after `b` in the order of paths. -/
def pathLe (a b : Path × Option ByteArray) : Bool := !decide (b.1.parts < a.1.parts)

/-- The SQL files of a directory in order. -/
def inDirectory (p : Path) (e : Entry) : List (Path × Option ByteArray) :=
  ((e.filesBelow.map fun f => (p.below f.1, f.2)).filter (·.1.isSql)).mergeSort pathLe

/-- Adds what is found at one more path. -/
def addPath (look : Path → Option Entry) (c : Collected) (p : Path) : Collected :=
  match look p with
  | none => { c with missing := c.missing ++ [p] }
  | some (.file contents) =>
    if p.isSql then { c with files := c.files ++ [(p, contents)] }
    else { c with skipped := c.skipped ++ [p] }
  | some (.directory entries) => { c with files := c.files ++ inDirectory p (.directory entries) }

/-- What is found at paths, in order. -/
def ofPaths (look : Path → Option Entry) (paths : List Path) : Collected :=
  paths.foldl (addPath look) {}

/-- The files that can be read as text. -/
def documents (c : Collected) : List Document :=
  c.files.filterMap fun f => (textOf? f.2).map fun text => ⟨some (toString f.1), text⟩

/-- The files that cannot. -/
def unreadable (c : Collected) : List Path :=
  (c.files.filter fun f => (textOf? f.2).isNone).map Prod.fst

/-- Every path could be used or passed over. -/
def isComplete (c : Collected) : Bool := c.missing.isEmpty && c.unreadable.isEmpty

/-- What is shown about the paths that could not be used. The reason that the system gives for a
file that cannot be read depends on the system and is left out behind its path. Paths stand in these
lines unescaped; showing a line is taken to succeed, also where a path is markup of its own such as
`[/x].sql`. -/
def notes (c : Collected) : List Display :=
  c.skipped.map (fun p => .styled "yellow" s!"Skipping {p}: not a SQL file.") ++
  c.missing.map (fun p => .styled "red" s!"No such file or directory: {p}") ++
  c.unreadable.map (fun p => .styled "red" s!"Cannot read {p}")

end Collected

/-- The text up to and including the first semicolon. -/
def firstStatement (cs : List Char) : List Char :=
  cs.takeWhile (· != ';') ++ (cs.dropWhile (· != ';')).take 1

/-- The document on standard input, one statement without a name. -/
def Document.ofInput (input : String) : Document where
  filename := none
  text := (firstStatement (Text.unifyNewlines input.toList)).toArray

end SqlStyle
