import HomeConfig.Yaml.Error

/-!
# Tokens

A token is a piece of a document with a syntactic role.  Indentation shows as tokens of its own:
the start of a block collection and the end of a block.

A `TokenStream` holds the tokens a document delivers.  When recognition fails, the tokens before
the failure are still there, and the failure stands behind them: what reads the stream meets it
only when it asks for the next token.
-/

namespace HomeConfig

namespace Yaml

/-- How a scalar is written. -/
inductive ScalarStyle
  | plain
  | quoted
  | block
deriving DecidableEq, Repr

/-- The role of a token. -/
inductive TokenKind
  | streamStart
  | streamEnd
  | versionDirective (major minor : Nat)
  | tagDirective (handle tagPrefix : String)
  | otherDirective
  | documentStart
  | documentEnd
  | blockSequenceStart
  | blockMappingStart
  | blockEnd
  | flowSequenceStart
  | flowMappingStart
  | flowSequenceEnd
  | flowMappingEnd
  | key
  | value
  | blockEntry
  | flowEntry
  | alias (name : String)
  | anchor (name : String)
  | tag (handle : Option String) (suffix : String)
  | scalar (text : Text) (style : ScalarStyle)
deriving DecidableEq, Repr

/-- How a message names a token. -/
def TokenKind.name : TokenKind → String
  | .streamStart => "<stream start>"
  | .streamEnd => "<stream end>"
  | .versionDirective _ _ => "<directive>"
  | .tagDirective _ _ => "<directive>"
  | .otherDirective => "<directive>"
  | .documentStart => "<document start>"
  | .documentEnd => "<document end>"
  | .blockSequenceStart => "<block sequence start>"
  | .blockMappingStart => "<block mapping start>"
  | .blockEnd => "<block end>"
  | .flowSequenceStart => "["
  | .flowMappingStart => "\x7b"
  | .flowSequenceEnd => "]"
  | .flowMappingEnd => "\x7d"
  | .key => "?"
  | .value => ":"
  | .blockEntry => "-"
  | .flowEntry => ","
  | .alias _ => "<alias>"
  | .anchor _ => "<anchor>"
  | .tag _ _ => "<tag>"
  | .scalar _ _ => "<scalar>"

/-- A token and its place. -/
structure Token where
  kind : TokenKind
  start : Mark
  stop : Mark
deriving DecidableEq, Repr

/-- The tokens of a document, and the failure that stands behind them. -/
structure TokenStream where
  tokens : List Token
  failure : Option Failure
deriving DecidableEq, Repr

end Yaml

end HomeConfig
