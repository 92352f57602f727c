import HomeConfig.Yaml.Construction
import HomeConfig.Yaml.Tokenise

/-!
# Loading documents

A text can hold several documents.  They are read one after the other, and each becomes a value
before the next one is read, so the first failure in this order is the one that is reported.

`check` asks only whether a text can be loaded.  An error of syntax is its answer; content that
cannot be what its tag asks for is a failure of the check itself.
-/

namespace HomeConfig

namespace Yaml

/-- The values of the documents from a state on. -/
def loadFrom (first : Bool) : (bound : Nat) → Assembly → Except Failure (List Value)
  | 0, _ => return []
  | bound + 1, state => do
    match ← Graph.next? first state with
    | none => return []
    | some (graph, root, after) =>
      let value ← graph.value root
      return value :: (← loadFrom false bound after)

/-- The values of all documents of a text. -/
def load (text : Text) : Except Failure (List Value) := do
  let offset := (text.takeWhile isAcceptable).length
  if let some c := text[offset]? then
    throw (.syntaxError (.unacceptable c offset))
  let stream := TokenStream.ofText text
  loadFrom true (stream.tokens.length + 2) (Graph.begin stream)

/-- An error of syntax as it is shown: its message, and its line and column if it has a place. -/
structure SyntaxReport where
  message : String
  place : Option (Nat × Nat)
deriving DecidableEq, Repr

/-- The report of an error. -/
def Error.report (error : Error) : SyntaxReport where
  message := error.message
  place := error.mark?.map fun mark => (mark.line, mark.column)

/-- The first error of syntax in a text, if there is one. -/
def check (text : Text) : Except ContentFault (Option SyntaxReport) :=
  match load text with
  | .ok _ => .ok none
  | .error (.syntaxError error) => .ok (some error.report)
  | .error (.content fault) => .error fault

end Yaml

end HomeConfig
