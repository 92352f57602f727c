import HomeConfig.Command.Workspace
import HomeConfig.Rehearsal.Course
import HomeConfig.Settings.EnvironmentFile

/-!
# The program

Runs one command in the present directory.  This layer reads the environment, the settings file
and the files that are named, and prints; everything else is decided by the course of the command.

There is no network here, so every request for live data is refused.  A command that ends in
serving an editor only names the transport that its host has to open.
-/

namespace HomeConfig

namespace Program

/-- The names under which the environment can hold settings. -/
def settingNames : List String :=
  ["environment", "log_level"] ++ Settings.apiUrlNames ++ Settings.tokenNames ++
    ["request_timeout", "cache_ttl_seconds", "diagnostics_debounce_seconds", "shared_secrets_path"]

/-- A script in which every request is refused. -/
def unreachable : Script where
  cues := [Registry.states, .services, .areas, .devices, .floors, .labels].map fun registry =>
    (registry.endpoint, [⟨0, .error .refused⟩])
  templates := [⟨0, .error .refused⟩]

/-- The settings in the environment, in capital or in small letters. -/
def environment : IO (List (String × String)) := do
  let names := settingNames.flatMap fun name => [name.toUpper, name]
  let values ← names.mapM fun name => return (name, ← IO.getEnv name)
  return values.filterMap fun (name, value) => value.map (Prod.mk name)

/-- The text of a file, if it can be read. -/
def fileText? (name : String) : IO (Option String) := do
  try
    return some (← IO.FS.readFile name)
  catch _ => return none

/-- The files among some names, with their texts. -/
def files (names : List String) : IO (List (String × String)) := do
  let texts ← names.mapM fun name => return (name, ← fileText? name)
  return texts.filterMap fun (name, text) => text.map (Prod.mk name)

/-- The directories among some paths. -/
def directories (paths : List Path) : IO (List Path) :=
  paths.filterM fun path => do
    let here ← IO.currentDir
    (here / String.ofList path.toText).isDir

/-- The paths that documents in a directory include. -/
def includedPaths (directory : Path) (texts : List (String × String)) : List Path :=
  texts.flatMap fun (name, text) =>
    (Reference.includes text.toList).map fun reference =>
      (Source.place directory name).parent.resolve reference.value.toList

/-- The present directory with the files that are named, and what these include. -/
def workspace (names : List String) : IO Workspace := do
  let directory := Path.ofText (← IO.currentDir).toString.toList
  let named ← files names
  let included := includedPaths directory named
  let others ← files (included.map fun path => String.ofList path.toText)
  return { Workspace.ofFiles directory (named ++ others) with
    directories := ← directories included }

/-- The settings of the environment and the settings file. -/
def settings : IO (Except Failure Settings) := do
  let values ← environment
  let file := ((← fileText? ".env").map fun text => EnvironmentFile.read values text.toList).getD []
  return Settings.read
    [Settings.textLayer (values.map fun (name, value) => (name, some value)),
      Settings.textLayer file]

/-- Run a course, and give the code for the shell. -/
def run (settings : Except Failure Settings) (course : Course) : IO UInt32 := do
  let timeToLive := settings.toOption.elim 60 Settings.timeToLive
  let record := course.rehearse unreachable timeToLive
  record.lines.forM (IO.eprintln ·)
  match record.ending.crash with
  | some (.failure cause) => IO.eprintln cause.message
  | some .markup => IO.eprintln "a tag closes nothing"
  | none => pure ()
  return record.ending.code.toUInt32

end Program

end HomeConfig

open HomeConfig in
/-- Run the command that the arguments name. -/
def main (arguments : List String) : IO UInt32 := do
  let workspace ← Program.workspace arguments
  let settings ← Program.settings
  match workspace.course settings arguments with
  | .ok course => Program.run settings course
  | .error .help => return 0
  | .error .usage =>
    IO.eprintln "usage: ha-lsp (serve | check | status | version) [options] [files]"
    return 2
