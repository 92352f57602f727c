import HomeConfig.Text.Position

/-!
# Findings

What can be wrong with a document, and how it is shown: each finding has a code, a message and a
severity.  Names that are unknown to the running system are warnings, since the system may change;
everything else is an error.
-/

namespace HomeConfig

/-- What is wrong at some place of a document. -/
inductive Finding
  | unknownEntity (id : String)
  | unknownService (fullName : String)
  | missingFile (path : String)
  | missingDirectory (path : String)
  | template (message : String)
  | yaml (message : String)
deriving DecidableEq, Repr

/-- How serious a finding is. -/
inductive Severity
  | error
  | warning
deriving DecidableEq, Repr

namespace Severity

/-- The name of a severity. -/
def name : Severity → String
  | error => "error"
  | warning => "warning"

end Severity

namespace Finding

/-- The code of a finding. -/
def code : Finding → String
  | unknownEntity _ => "unknown-entity"
  | unknownService _ => "unknown-service"
  | missingFile _ | missingDirectory _ => "include-not-found"
  | template _ => "template-syntax"
  | yaml _ => "yaml-syntax"

/-- How serious a finding is. -/
def severity : Finding → Severity
  | unknownEntity _ | unknownService _ => .warning
  | _ => .error

/-- The message of a finding. -/
def message : Finding → String
  | unknownEntity id => "Unknown entity: " ++ id
  | unknownService fullName => "Unknown service: " ++ fullName
  | missingFile path => "Include file not found: " ++ path
  | missingDirectory path => "Include directory not found: " ++ path
  | template message => message
  | yaml message => "YAML syntax error: " ++ message

end Finding

/-- A finding and the range it is about. -/
structure Diagnostic where
  range : Range
  finding : Finding
deriving DecidableEq, Repr

end HomeConfig
