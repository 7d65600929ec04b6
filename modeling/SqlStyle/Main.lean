import SqlStyle.Command.Run
import SqlStyle.Display.Plain

/-! # The program

Reads what the arguments name, runs the command on it, writes the reports to standard output and
everything else to standard error. -/

namespace SqlStyle

/-- The bytes of a file, if it can be read. -/
def readBytes (path : String) : IO (Option ByteArray) := do
  try
    return some (← IO.FS.readBinFile path)
  catch _ => return none

/-- What is at a path on disk. -/
partial def readEntry (path : String) : IO (Option Entry) := do
  let place := (← IO.currentDir) / path
  if ← place.isDir then
    let mut entries := #[]
    for child in ← place.readDir do
      if let some e ← readEntry child.path.toString then
        entries := entries.push (child.fileName, e)
    return some (.directory entries.toList)
  else if ← place.pathExists then return some (.file (← readBytes path))
  else return none

/-- The paths a command reads, those of variables apart. -/
def Command.paths : Command → List String
  | lint options => options.config.toList ++ options.paths
  | rules => []

/-- How a command may look variables up: by default, and as its configuration file says. -/
def Command.lookups (command : Command) : IO (List Lookup) := do
  match command with
  | rules => return []
  | lint options =>
    let usual := Lookup.ofConfiguration Settings.configuration
    match options.config with
    | none => return [usual]
    | some path =>
      let table := (Settings.fileTable ⟨path, ← readBytes path⟩).toOption
      let chosen := table.bind fun t => (Lookup.ofArguments Settings.configuration t).toOption
      return usual :: chosen.toList

/-- The variables that may hold settings. -/
def readVariables (lookups : List Lookup) : IO (List (String × String)) := do
  let names := lookups.flatMap fun l => Settings.fieldNames.filterMap fun f =>
    (l.variableName f).toOption
  let mut vars := #[]
  for name in names ++ names.map Text.upper ++ names.map Text.lower do
    if let some value ← IO.getEnv name then vars := vars.push (name, value)
  return vars.toList

/-- Reads what a command needs. No grammar is built in, so documents have neither tokens nor
statements. -/
def readSurroundings (command : Command) : IO Surroundings := do
  let lookups ← command.lookups
  let mut entries := #[]
  for path in command.paths.map Path.ofString ++ lookups.flatMap Lookup.places do
    if let some e ← readEntry (toString path) then entries := entries.push (path, e)
  let found := entries.toList
  let input ← match command with
    | .lint options => if options.quick then (← IO.getStdin).readToEnd else pure ""
    | .rules => pure ""
  return {
    look := fun path => found.lookup path
    vars := ← readVariables lookups
    input
    toolkit := fun _ => Toolkit.empty }

/-- Shows and writes what a run resulted in. -/
def finish (result : Except Abort Outcome) (elapsed : String) : IO UInt32 := do
  match result with
  | .error (.config e) =>
    IO.eprintln e.message
    return 1
  | .error (.fault fault) =>
    IO.eprintln fault.message
    return 1
  | .ok outcome =>
    IO.print outcome.output
    for item in outcome.shown elapsed do
      for line in item.lines do IO.eprintln line
    return outcome.status.toUInt32

end SqlStyle

def main (args : List String) : IO UInt32 := do
  match SqlStyle.Command.ofArguments? args with
  | none => return 2
  | some command =>
    let start ← IO.monoMsNow
    let surroundings ← SqlStyle.readSurroundings command
    let result := command.run surroundings
    let stop ← IO.monoMsNow
    SqlStyle.finish result (toString (stop - start))
