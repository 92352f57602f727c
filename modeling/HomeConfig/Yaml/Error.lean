import HomeConfig.Text.Quoted
import HomeConfig.Yaml.Mark

/-!
# What is wrong with a document

A document may be refused at five stages: for a character, while its tokens are recognised, while
they are put together, while anchors are looked up, and while values are built.  All but the first
mark the place of the problem.

The content of a scalar can also be impossible as the value its tag asks for; that is a
`ContentFault` and has no place.
-/

namespace HomeConfig

namespace Yaml

/-- Where in the reading of a document an error arises. -/
inductive Stage
  | tokens
  | nesting
  | references
  | values
deriving DecidableEq, Repr

/-- An error in the syntax of a document. -/
inductive Error
  | unacceptable (c : Char) (offset : Nat)
  | marked (stage : Stage) (context : Option String) (problem : String) (mark : Mark)
deriving DecidableEq, Repr

/-- Content that cannot be the value its tag asks for. -/
inductive ContentFault
  /-- No number, no calendar date, or no character. -/
  | noSuchValue
  /-- No word for a truth value. -/
  | unknownWord
  /-- Not of the form of a date. -/
  | noDate
  /-- Empty where a digit is needed. -/
  | empty
  /-- A collection where a text is needed. -/
  | notText
  /-- Too large for a floating-point value. -/
  | overflow
deriving DecidableEq, Repr

/-- Why a document cannot be loaded. -/
inductive Failure
  | syntaxError (error : Error)
  | content (fault : ContentFault)
deriving DecidableEq, Repr

namespace Error

/-- The message of an error: what was being read, then what is wrong there. -/
def message : Error → String
  | .unacceptable c offset =>
    "unacceptable character #x" ++ String.ofList (Hexadecimal.padded 4 c.toNat) ++
      ": special characters are not allowed\n  in \"<unicode string>\", position " ++
      toString offset
  | .marked _ context problem _ =>
    match context with
    | some context => context ++ " " ++ problem
    | none => problem

/-- The place of an error, if it has one. -/
def mark? : Error → Option Mark
  | .unacceptable _ _ => none
  | .marked _ _ _ mark => some mark

end Error

end Yaml

end HomeConfig
