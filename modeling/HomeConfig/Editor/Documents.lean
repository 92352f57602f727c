import HomeConfig.Editor.Change
import HomeConfig.Files.Uri
import HomeConfig.Table

/-!
# Open documents

The documents that an editor has opened, each with its present text.  A document is kept under its
decoded address but looked up under the address as it is given, so one that was opened under an
address with encoded characters is not found under it.  Only documents of settings are found.
-/

namespace HomeConfig

/-- The texts of the open documents, by decoded address. -/
abbrev Documents := Table String Text

namespace Documents

/-- The text of an open document of settings. -/
def text? (documents : Documents) (uri : String) : Option Text :=
  if Uri.isYaml uri then documents.find? uri else none

/-- Open a document, whose address must be well formed. -/
def «open» (documents : Documents) (uri : String) (text : Text) : Except Failure Documents := do
  let _ ← Uri.ofText uri.toList
  return documents.insert (Percent.decodeString uri) text

/-- Close a document. -/
def close (documents : Documents) (uri : String) : Documents :=
  documents.erase uri

/-- Apply changes to a document, one after the other. -/
def change (documents : Documents) (uri : String) (changes : List Change) : Documents :=
  match documents.find? uri with
  | some text => documents.insert uri (changes.foldl Change.apply text)
  | none => documents

theorem text?_close_self (documents : Documents) (uri : String) :
    text? (documents.close uri) uri = none := by
  simp [text?, close]

theorem text?_change_self (documents : Documents) (uri : String) (changes : List Change) :
    text? (documents.change uri changes) uri =
      (documents.text? uri).map (changes.foldl Change.apply ·) := by
  unfold text? change
  by_cases yaml : Uri.isYaml uri = true
  · cases found : Table.find? documents uri <;> simp [yaml, found]
  · simp [yaml]

end Documents

end HomeConfig
