import HomeConfig.Command.Course

/-!
# Where commands are run

A command is run in a directory with files.  Files are named as they lead on from there, and those
that are to be checked must exist.

Settings are read after the command is known and before its arguments are, so a command that does
not exist is refused first, and settings that cannot be read count more than wrong arguments.
-/

namespace HomeConfig

/-- A directory and the texts of the files in and below it. -/
structure Workspace where
  directory : Path
  texts : List (Path × Text)
  /-- Further directories that exist. -/
  directories : List Path := []

namespace Workspace

/-- The workspace with texts under the names of their files. -/
def ofFiles (directory : Path) (files : List (String × String)) : Workspace where
  directory := directory
  texts := files.map fun (name, text) => (Source.place directory name, text.toList)

/-- The files and directories that exist. -/
def tree (workspace : Workspace) : FileTree :=
  FileTree.ofPaths (workspace.texts.map (·.1)) (workspace.directory :: workspace.directories)

/-- Whether a name leads to a file. -/
def isFile (workspace : Workspace) (name : String) : Bool :=
  let path := workspace.directory.join (Path.ofText name.toList)
  (workspace.tree.hasFile path).toOption.getD false

/-- A file that is to be checked. -/
def source (workspace : Workspace) (name : String) : Except Failure Source :=
  let text := workspace.texts.lookup (Source.place workspace.directory name)
  Source.ofFile workspace.directory workspace.tree name (text.getD [])

/-- What arguments ask for, with the settings that were read. -/
def course (workspace : Workspace) (settings : Except Failure Settings)
    (arguments : List String) : Except Refusal Course := do
  let (verb, arguments) ← Verb.ofArguments arguments
  match settings with
  | .error cause => return .crashed .info cause
  | .ok settings =>
    let command ← Command.read workspace.isFile verb arguments
    return Course.ofCommand settings (·.mapM workspace.source) command

end Workspace

end HomeConfig
