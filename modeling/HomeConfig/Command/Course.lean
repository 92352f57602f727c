import HomeConfig.Command.Arguments
import HomeConfig.Console.Frame
import HomeConfig.Diagnosis.Check
import HomeConfig.Settings.Basic

/-!
# What commands do

A command has a course: lines that are shown at once, then work that may read live data, and an
ending with further lines and a code for the shell.  A failure that a command does not expect ends
it abruptly; so does marked text that cannot be shown.
-/

namespace HomeConfig

/-- An abrupt end. -/
inductive Crash
  | failure (cause : Failure)
  /-- In a marked text a tag closes nothing. -/
  | markup

/-- How a command ends. -/
structure Ending where
  lines : List String := []
  code : Nat := 0
  crash : Option Crash := none
  /-- How the server is to talk to an editor from now on. -/
  served : Option Transport := none

/-- What a command does. -/
structure Course where
  /-- What is shown at once. -/
  opening : List String := []
  /-- Where live data comes from. -/
  access : Option Access := none
  work : Activity Ending
  /-- The least level that is reported. -/
  threshold : Level

/-- A file to be checked, with its path as it was given. -/
structure Source where
  shown : Path
  document : CheckedDocument

namespace Ending

/-- An abrupt end. -/
def crashed (crash : Crash) : Ending :=
  { code := 1, crash := some crash }

/-- An end with lines, unless they cannot be shown. -/
def shown (lines : Option (List String)) (code : Nat) : Ending :=
  match lines with
  | some lines => { lines := lines, code := code }
  | none => crashed .markup

end Ending

namespace Source

/-- The place of a file that is named in a directory. -/
def place (directory : Path) (name : String) : Path :=
  (directory.join (Path.ofText name.toList)).normal

/-- The file that is named in a directory, with its text. -/
def ofFile (directory : Path) (tree : FileTree) (name : String) (text : Text) :
    Except Failure Source := do
  let uri ← Uri.ofPath (place directory name)
  return ⟨Path.ofText name.toList, Text.unifyBreaks text, some uri, tree⟩

end Source

namespace Course

/-- The version of the server. -/
def version : String := "0.1.0"

/-- The name of the server. -/
def serverName : String := "ha-lsp"

/-- A command that cannot even begin. -/
def crashed (threshold : Level) (cause : Failure) : Course where
  work := .finish (.crashed (.failure cause))
  threshold := threshold

/-- Report which live data there is, and go on with it. -/
def withAccess (settings : Settings) (opening : List String) (threshold : Level)
    (failed : Failure → Ending) (work : Option Access → Activity Ending) : Course :=
  let (access, notice) := Access.choose settings
  { opening := opening
    access := access.toOption.join
    threshold := threshold
    work := do
      Activity.report notice
      match access with
      | .ok access => work access
      | .error cause => return failed cause }

/-! ## Serving -/

/-- The lines about a transport. -/
def transportText : Transport → String
  | .stdio => "\nTransport: stdio"
  | .tcp host port => s!"\nTransport: tcp\nHost: {host}\nPort: {port}"

/-- What is shown when the server starts. -/
def servePanel (settings : Settings) (transport : Transport) : Console.Panel where
  title := serverName
  text := "[bold green]Starting Home Assistant LSP Server[/bold green]" ++
    transportText transport ++
    "\nLive data: " ++ if settings.hasToken then "enabled" else "disabled (no token)"

/-- Start the server. -/
def serve (settings : Settings) (transport : Transport) (level : Option Level) : Course :=
  let threshold := level.getD settings.logLevel
  match (servePanel settings transport).lines? with
  | none => { work := .finish (.crashed .markup), threshold := threshold }
  | some opening =>
    let refused (cause : Failure) : Ending :=
      .shown (Console.lines? ("[red]Configuration error:[/red] " ++ cause.message)) 1
    withAccess settings opening threshold refused fun _ =>
      return { served := some transport }

/-! ## Checking -/

/-- A severity as it is shown. -/
def severityText : Severity → String
  | .error => "[red]error[/red]"
  | .warning => "[yellow]warning[/yellow]"

/-- The row of a finding. -/
def findingRow (path : Path) (found : Diagnostic) : List String := [
  String.ofList path.toText,
  toString (found.range.start.line + 1),
  toString (found.range.start.character + 1),
  severityText found.finding.severity,
  found.finding.code,
  found.finding.message]

/-- All findings in a grid. -/
def findingGrid (results : List (Path × List Diagnostic)) : Console.Grid where
  title := "Diagnostics"
  heads := ["File", "Line", "Col", "Severity", "Code", "Message"]
  rows := results.flatMap fun (path, found) => found.map (findingRow path)

/-- How many errors there are among some findings. -/
def errorCount (results : List (Path × List Diagnostic)) : Nat :=
  (results.flatMap (·.2)).countP (·.finding.severity = .error)

/-- The number of files, findings and errors. -/
def summary (results : List (Path × List Diagnostic)) : String :=
  let findings := results.flatMap (·.2)
  s!"[bold]{results.length}[/bold] file(s) checked, [bold]{findings.length}[/bold] finding(s), " ++
    s!"[bold]{errorCount results}[/bold] error(s)"

/-- The end of a check.  It fails if there is an error. -/
def checkEnding (results : List (Path × List Diagnostic)) : Ending :=
  let grid := findingGrid results
  let lines := do
    let found ← if grid.rows.isEmpty then some [] else grid.lines?
    return found ++ (← Console.lines? (summary results))
  .shown lines (if errorCount results = 0 then 0 else 1)

/-- The findings of some files. -/
def checkAll (isConnected : Bool) : List Source → Activity (List (Path × List Diagnostic))
  | [] => return []
  | source :: rest => do
    let found ← validate isConnected source.document
    return (source.shown, found) :: (← checkAll isConnected rest)

/-- Check files. -/
def check (settings : Settings) (sources : List Source) : Course :=
  withAccess settings [] settings.logLevel (fun cause => .crashed (.failure cause)) fun access =>
    checkEnding <$> checkAll access.isSome sources

/-! ## Status -/

/-- What is shown about the settings. -/
def statusPanel (settings : Settings) : Console.Panel where
  title := "Home Assistant"
  text := s!"[bold]Environment:[/bold] {settings.deployment.name}\n" ++
    s!"[bold]API:[/bold] {settings.apiUrl}\n[bold]Token:[/bold] " ++
    if settings.hasToken then "[green]configured[/green]" else "[yellow]missing[/yellow]"

/-- What can be counted. -/
def counted : List (String × Registry) := [
  ("Entities", .states), ("Services", .services), ("Areas", .areas), ("Devices", .devices),
  ("Floors", .floors), ("Labels", .labels)]

/-- The number of entries of a registry.  Floors and labels may be missing. -/
def count : Registry → Inquiry Nat
  | .floors => List.length <$> Inquiry.listOrEmpty .floors
  | .labels => List.length <$> Inquiry.listOrEmpty .labels
  | registry => List.length <$> Inquiry.list registry

/-- The rows that tell how much live data there is. -/
def countRows : List (String × Registry) → Activity (List (List String))
  | [] => return []
  | (name, registry) :: rest => do
    let row := match ← (count registry).run with
      | .ok number => [name, toString number, "[green]ok[/green]"]
      | .error cause => [name, "-", "[red]" ++ cause.message ++ "[/red]"]
    return row :: (← countRows rest)

/-- Show how much live data there is. -/
def status (settings : Settings) : Course :=
  match (statusPanel settings).lines? with
  | none => { work := .finish (.crashed .markup), threshold := settings.logLevel }
  | some opening =>
    if settings.hasToken then
      withAccess settings opening settings.logLevel (fun cause => .crashed (.failure cause))
        fun _ => do
          let rows ← countRows counted
          return .shown (Console.Grid.lines? ⟨"Runtime Data", ["Kind", "Count", "Status"], rows⟩) 0
    else
      let hint := "[yellow]Live features disabled: set SUPERVISOR_TOKEN or HA_TOKEN.[/yellow]"
      { opening := opening
        work := .finish (.shown (Console.lines? hint) 0)
        threshold := settings.logLevel }

/-! ## Version -/

/-- Show the version. -/
def showVersion (settings : Settings) : Course where
  work := .finish (.shown (Console.lines? s!"{serverName} [bold]{version}[/bold]") 0)
  threshold := settings.logLevel

/-! ## All commands -/

/-- What a command does; `load` gives the files to check. -/
def ofCommand (settings : Settings) (load : List String → Except Failure (List Source)) :
    Command → Course
  | .serve transport level => serve settings transport level
  | .check files =>
    match load files with
    | .ok sources => check settings sources
    | .error cause => crashed settings.logLevel cause
  | .status => status settings
  | .version => showVersion settings

end Course

end HomeConfig
