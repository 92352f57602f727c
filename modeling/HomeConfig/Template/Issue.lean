import HomeConfig.Document.Template
import HomeConfig.Template.Grammar

/-!
# Faulty expressions in a document

Every expression that opens and closes on one line of a document is checked on its own, as a
template.  Statements, which usually span lines, are left alone.
-/

namespace HomeConfig

namespace Template

/-- An expression of a document that is not well formed. -/
structure Issue where
  excerpt : Excerpt
  message : String
deriving DecidableEq, Repr

/-- The issues among some expressions, in their order. -/
def issuesOf : List Excerpt → Except Failure (List Issue)
  | [] => .ok []
  | excerpt :: others => do
    let found ← check excerpt.text
    let rest ← issuesOf others
    pure (match found with
      | some message => ⟨excerpt, message⟩ :: rest
      | none => rest)

/-- The issues of a document, from left to right. -/
def issues (text : Text) : Except Failure (List Issue) :=
  issuesOf (Document.expressions text)

end Template

end HomeConfig
