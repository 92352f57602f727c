import HomeConfig.Document.Reference
import HomeConfig.Files.Tree
import HomeConfig.Files.Uri
import HomeConfig.Notice

/-!
# Going to what a line names

A line can include files and use secrets.  The first included file that exists is where the line
leads; if there is none and the line uses a secret, it leads to the nearest file of secrets.
Files are targets as a whole.
-/

namespace HomeConfig

/-- A place in a document. -/
structure Location where
  uri : String
  range : Range
deriving DecidableEq, Repr

/-- Where a line leads. -/
inductive Destination
  | nowhere
  | file (path : Path)
  /-- A secret is used, but there is no file of secrets. -/
  | noSecrets (secret : String)
deriving DecidableEq, Repr

namespace Destination

/-- The name of a file of secrets. -/
def secretsName : Text := "secrets.yaml".toList

/-- The places where secrets are looked for: beside the document, one directory above, and a
shared place. -/
def secretsCandidates (directory : Path) (shared : Option Path) : List Path :=
  let secrets : Path := ⟨.here, [secretsName]⟩
  [directory.join secrets, directory.parent.join secrets] ++ shared.toList

/-- The first of some paths at which a file stands. -/
def firstFile? (tree : FileTree) : List Path → Except Failure (Option Path)
  | [] => return none
  | path :: rest => do
    if ← tree.hasFile path then return some path
    firstFile? tree rest

/-- The files that a line includes, as paths. -/
def includedFiles (directory : Path) (line : Text) : List Path :=
  ((Reference.includes line).filter (·.kind = .file)).map fun reference =>
    directory.resolve reference.value.toList

/-- Where a line of a document leads that stands in the given directory. -/
def ofLine (tree : FileTree) (shared : Option Path) (directory : Path) (line : Text) :
    Except Failure Destination := do
  if let some found ← firstFile? tree (includedFiles directory line) then return file found
  match Reference.secrets line with
  | [] => return nowhere
  | secret :: _ =>
    match ← firstFile? tree (secretsCandidates directory shared) with
    | some secrets => return file secrets
    | none => return noSecrets secret.value

/-- Where a line of a document leads. -/
def find (tree : FileTree) (shared : Option Path) (text : Text) (uri : String) (line : Nat) :
    Except Failure Destination := do
  match ← Uri.directory? uri with
  | none => return nowhere
  | some directory => ofLine tree shared directory (Text.lineAt text line)

/-- What the editor is to open. -/
def location? : Destination → Except Failure (Option Location)
  | file path => return some ⟨← Uri.ofPath path, Range.fileStart⟩
  | _ => return none

/-- What is reported. -/
def notices : Destination → List Notice
  | noSecrets secret => [.noSecretsFile secret]
  | _ => []

end Destination

/-- The shared place for secrets, if one is set. -/
def Destination.sharedPlace (place : String) : Option Path :=
  if place = "" then none else some (Path.ofText place.toList)

end HomeConfig
