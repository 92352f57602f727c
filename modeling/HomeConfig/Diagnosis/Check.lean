import HomeConfig.Diagnosis.Finding
import HomeConfig.Document.Reference
import HomeConfig.Files.Tree
import HomeConfig.Files.Uri
import HomeConfig.Live.Query
import HomeConfig.Template.Issue
import HomeConfig.Yaml.Document

/-!
# Checking documents

A document is checked in five ways, independently of each other: whether its entities and its
services are known, which needs a connection, whether what it includes exists, and whether its
templates and the document itself are well formed.  A check that fails is reported and finds
nothing; the others are made all the same.
-/

namespace HomeConfig

/-- A way to check a document. -/
inductive Check
  | entities
  | services
  | includes
  | templates
  | yaml
deriving DecidableEq, Repr

/-- What a check is made on: a text, and the address of the document and the file system it stands
in. -/
structure CheckedDocument where
  text : Text
  uri : Option String
  tree : FileTree

namespace Check

/-- The name of a check. -/
def name : Check → String
  | entities => "entities"
  | services => "services"
  | includes => "includes"
  | templates => "templates"
  | yaml => "yaml"

/-- The checks that are made. -/
def all (isConnected : Bool) : List Check :=
  (if isConnected then [entities, services] else []) ++ [includes, templates, yaml]

/-! ## Live data -/

/-- The references whose value is not among some names. -/
def unknown (finding : String → Finding) (isKnown : String → Bool) (references : List Reference) :
    List Diagnostic :=
  (references.filter fun reference => !isKnown reference.value).map fun reference =>
    ⟨reference.range, finding reference.value⟩

/-- The entities that are not known. -/
def unknownEntities (text : Text) : Inquiry (List Diagnostic) := do
  let references := Reference.entities text
  if references.isEmpty then return []
  let index ← Inquiry.entityIndex
  return unknown .unknownEntity (fun id => (index.table.find? id).isSome) references

/-- The services that are not known. -/
def unknownServices (text : Text) : Inquiry (List Diagnostic) := do
  let references := Reference.services text
  if references.isEmpty then return []
  let names := (← Inquiry.services).map Service.fullName
  return unknown .unknownService names.contains references

/-! ## Files -/

/-- Whether what a reference includes exists, and what is found if it does not. -/
def include? (tree : FileTree) (directory : Path) (reference : Reference) :
    Except Failure (Option Finding) := do
  let target := directory.resolve reference.value.toList
  if reference.kind = .directory then
    return if ← tree.hasDirectory target then none else some (.missingDirectory reference.value)
  else
    return if ← tree.has target then none else some (.missingFile reference.value)

/-- The includes among some references that do not exist. -/
def missingAmong (tree : FileTree) (directory : Path) :
    List Reference → Except Failure (List Diagnostic)
  | [] => return []
  | reference :: rest => do
    let found ← include? tree directory reference
    return (found.map (Diagnostic.mk reference.range)).toList ++
      (← missingAmong tree directory rest)

/-- The includes that do not exist.  Only a document in a file can include others. -/
def missingIncludes (document : CheckedDocument) : Except Failure (List Diagnostic) := do
  match document.uri with
  | none => return []
  | some uri =>
    if uri = "" then return []
    match ← Uri.directory? uri with
    | none => return []
    | some directory =>
      missingAmong document.tree directory (Reference.includes document.text)

/-! ## Syntax -/

/-- The templates that are not well formed. -/
def faultyTemplates (text : Text) : Except Failure (List Diagnostic) :=
  match Template.issues text with
  | .ok issues => .ok <| issues.map fun issue =>
    ⟨Range.ofOffsets text issue.excerpt.start issue.excerpt.stop, .template issue.message⟩
  | .error failure => .error (.template failure)

/-- The range of an error of syntax: one character at its place, or at the start of the
document. -/
def errorRange (place : Option (Nat × Nat)) : Range :=
  let (line, column) := place.getD (0, 0)
  ⟨⟨line, column⟩, ⟨line, column + 1⟩⟩

/-- The first error of syntax. -/
def syntaxErrors (text : Text) : Except Failure (List Diagnostic) :=
  match Yaml.check text with
  | .ok report => .ok <| report.toList.map fun report =>
    ⟨errorRange report.place, .yaml report.message⟩
  | .error fault => .error (.content fault)

/-! ## All checks -/

/-- What a check finds. -/
def run (document : CheckedDocument) : Check → Inquiry (List Diagnostic)
  | entities => unknownEntities document.text
  | services => unknownServices document.text
  | includes => Inquiry.ofExcept (missingIncludes document)
  | templates => Inquiry.ofExcept (faultyTemplates document.text)
  | yaml => Inquiry.ofExcept (syntaxErrors document.text)

/-- What a check finds, nothing if it fails. -/
def runSafely (document : CheckedDocument) (check : Check) : Activity (List Diagnostic) := do
  match ← (check.run document).run with
  | .ok found => return found
  | .error cause =>
    Activity.report (.checkFailed check.name document.uri cause)
    return []

/-- What some checks find, in their order. -/
def runAll (document : CheckedDocument) : List Check → Activity (List Diagnostic)
  | [] => return []
  | check :: rest => do
    let found ← check.runSafely document
    return found ++ (← runAll document rest)

end Check

/-- All findings of a document. -/
def validate (isConnected : Bool) (document : CheckedDocument) : Activity (List Diagnostic) :=
  Check.runAll document (Check.all isConnected)

end HomeConfig
