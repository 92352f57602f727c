import HomeConfig.Json.Reader
import HomeConfig.Template.Token
import HomeConfig.Yaml.Error

/-!
# Failures

What can go wrong is kept as a cause, not as a text.  A `Problem` is raised on purpose and carries
its own message: a request that failed, a query without a connection, settings that cannot work.
All other causes say which expectation about outside data was not met.

Fields of a record are checked together, so that one reading reports every field that is wrong,
in the order of the fields (`Checked`).
-/

namespace HomeConfig

/-! ## Problems -/

/-- The families of problems. -/
inductive Problem.Kind
  | general
  | service
  | notConnected
  | configuration
deriving DecidableEq, Repr

/-- A problem that is raised on purpose. -/
structure Problem where
  kind : Problem.Kind
  message : String
  /-- The query that failed. -/
  tool : Option String := none
  /-- The status of the answer, if there was one. -/
  status : Option Int := none
  details : Json := .object []
deriving BEq

namespace Problem

/-- The wider family of a family. -/
def Kind.parent? : Kind → Option Kind
  | .general => none
  | .service => some .general
  | .notConnected => some .service
  | .configuration => some .general

/-- A query that failed. -/
def ofQuery (tool message : String) : Problem :=
  { kind := .service, message := message, tool := some tool }

end Problem

/-- A problem as it is reported: with an identifier to trace it by. -/
structure Report where
  problem : Problem
  id : String

namespace Report

/-- A report under the given identifier, or under a new one when none, or an empty one, is
given. -/
def make (problem : Problem) (given : Option String) (fresh : String) : Report where
  problem := problem
  id := match given with
    | some id => if id = "" then fresh else id
    | none => fresh

end Report

/-! ## Fields -/

/-- What is wrong with the value of a field. -/
inductive FieldFault
  | notText
  | notObject
  | notInteger
  | notIntegral
  | unreadableInteger
  | integerTooLong
  | notNumber
  | unreadableNumber
  | notFinite
  | notAChoice
  | notGreater
  | tooSmall
  | tooLarge
deriving DecidableEq, Repr

/-- A field and what is wrong with it. -/
structure FieldFlaw where
  field : String
  fault : FieldFault
deriving DecidableEq, Repr

/-- A value read from fields, or all flaws of the fields. -/
def Checked (α : Type) : Type := Except (List FieldFlaw) α

namespace Checked

/-- A value without flaws. -/
protected def pure {α : Type} (value : α) : Checked α := Except.ok value

/-- A single flaw. -/
def flaw {α : Type} (field : String) (fault : FieldFault) : Checked α :=
  Except.error [⟨field, fault⟩]

/-- Read two parts and keep the flaws of both. -/
protected def seq {α β : Type} (function : Checked (α → β)) (argument : Unit → Checked α) :
    Checked β :=
  match function, argument () with
  | .ok f, .ok a => Except.ok (f a)
  | .ok _, .error flaws => Except.error flaws
  | .error flaws, .ok _ => Except.error flaws
  | .error first, .error second => Except.error (first ++ second)

instance : Applicative Checked where
  pure := Checked.pure
  seq := Checked.seq

end Checked

/-! ## Causes -/

/-- Why something could not be done. -/
inductive Failure
  /-- A problem raised on purpose. -/
  | problem (problem : Problem)
  /-- A record whose fields do not fit. -/
  | invalid (flaws : List FieldFlaw)
  /-- Members are asked of a value that is no object. -/
  | notAnObject
  /-- Items are asked of a value that has none. -/
  | notACollection
  /-- A text that is no JSON value. -/
  | unreadable (text : Text) (error : Json.ReadError)
  /-- A request to an address that no request can be sent to. -/
  | invalidAddress
  /-- Content of a document that is not what its tag asks for. -/
  | content (fault : Yaml.ContentFault)
  /-- A template that cannot be checked. -/
  | template (failure : Template.Failure)
  /-- A path too long for the file system. -/
  | pathTooLong
  /-- A document address, or a path, that cannot be understood. -/
  | malformedUri
  /-- A position no editor may be sent. -/
  | noPosition

namespace Failure

/-- A query that failed. -/
def ofQuery (tool message : String) : Failure :=
  problem (Problem.ofQuery tool message)

/-- The message of a failure. -/
def message : Failure → String
  | problem p => p.message
  | invalid flaws => s!"{flaws.length} invalid field(s)"
  | notAnObject => "members of a value that is no object"
  | notACollection => "items of a value that has none"
  | unreadable text error => error.message text
  | invalidAddress => "invalid address"
  | content _ => "content that its tag does not allow"
  | template (.syntaxError message) => message
  | template _ => "a number that cannot be read"
  | pathTooLong => "File name too long"
  | malformedUri => "malformed address"
  | noPosition => "a position out of range"

/-- The outcome of checked fields. -/
def ofChecked {α : Type} : Checked α → Except Failure α
  | .ok value => .ok value
  | .error flaws => .error (.invalid flaws)

end Failure

/-! ## Reading values -/

namespace Json

/-- The members of a value that must be an object. -/
def members : Json → Except Failure (List (String × Json))
  | .object members => .ok members
  | _ => .error .notAnObject

/-- A value, or an empty object in place of one that counts as absent. -/
def orEmpty (value : Option Json) : Json :=
  match value with
  | some value => if value.isTruthy then value else .object []
  | none => .object []

/-- A value that counts as present, or another one. -/
def orElse (value : Option Json) (other : Json) : Json :=
  match value with
  | some value => if value.isTruthy then value else other
  | none => other

end Json

namespace Checked

/-- A field that must be a text. -/
def text (field : String) : Json → Checked String
  | .string value => Checked.pure value
  | _ => flaw field .notText

/-- A field that is a text or null. -/
def optionalText (field : String) : Json → Checked (Option String)
  | .null => Checked.pure none
  | .string value => Checked.pure (some value)
  | _ => flaw field .notText

/-- A field that must be an object. -/
def object (field : String) : Json → Checked (List (String × Json))
  | .object members => Checked.pure members
  | _ => flaw field .notObject

end Checked

end HomeConfig
