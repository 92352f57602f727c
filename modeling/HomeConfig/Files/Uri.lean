import HomeConfig.Failure
import HomeConfig.Files.Host
import HomeConfig.Files.Path
import HomeConfig.Text.Class.Case

/-!
# Document addresses

Editors name documents by addresses.  An address of a file leads to a path; the host of a shared
directory becomes the start of that path, and the letter of a drive is written in lower case.
All other addresses lead to no file.
-/

namespace HomeConfig

/-- The parts of a document address that lead to a file, decoded. -/
structure Uri where
  scheme : Text
  host : Text
  path : Text
deriving DecidableEq, Repr

namespace Uri

/-- A character of a scheme. -/
def isSchemeChar (c : Char) : Bool :=
  c.isAlphanum || c == '+' || c == '-' || c == '.'

/-- The scheme of an address in lower case, and what follows it. -/
def splitScheme (text : Text) : Text × Text :=
  match Text.cut ':' text with
  | (scheme, some rest) =>
    if scheme.head?.any Char.isAlpha && scheme.all isSchemeChar then
      (scheme.map Char.toLower, rest)
    else ([], text)
  | (_, none) => ([], text)

/-- An address without what an editor may have put around and into it: blanks and control
characters at its start, and tabs and line breaks anywhere. -/
def clean (text : Text) : Text :=
  (text.dropWhile fun c => c.toNat ≤ 0x20).filter fun c => c != '\t' && c != '\r' && c != '\n'

/-- The parts of an address. -/
def ofText (text : Text) : Except Failure Uri := do
  let (scheme, rest) := splitScheme (clean text)
  let (host, rest) := match Text.stripPrefix? ['/', '/'] rest with
    | some rest =>
      let isEnd (c : Char) : Bool := c == '/' || c == '?' || c == '#'
      (rest.takeWhile (!isEnd ·), rest.dropWhile (!isEnd ·))
    | none => ([], rest)
  if !Host.isValid host then throw .malformedUri
  let path := rest.takeWhile fun c => c != '?' && c != '#'
  return ⟨scheme, Percent.decode host, Percent.decode path⟩

/-- Whether a path starts at a drive. -/
def hasDrive : Text → Bool
  | '/' :: letter :: ':' :: _ => letter.isAlpha
  | _ => false

/-- The text of the path that an address leads to. -/
def filePath? (uri : Uri) : Option Text :=
  if uri.scheme ≠ "file".toList then none
  else if uri.host ≠ [] ∧ uri.path ≠ [] then some ('/' :: '/' :: uri.host ++ uri.path)
  else if hasDrive uri.path then
    some ((uri.path.drop 1).take 1 |>.map Char.toLower |>.append (uri.path.drop 2))
  else some uri.path

/-- The path of the directory in which a document stands; `none` if it stands in no file. -/
def directory? (uri : String) : Except Failure (Option Path) := do
  if !Text.startsWith "file:".toList uri.toList then return none
  match (← ofText uri.toList).filePath? with
  | none => return none
  | some [] => return none
  | some path => return some (Path.ofText path).parent

/-- A character that stands for itself in an address. -/
def isPlain (c : Char) : Bool :=
  c.isAlphanum || c == '_' || c == '.' || c == '-' || c == '~' || c == '/'

/-- A path with its characters encoded; the colon behind a drive stays. -/
def encodePath (path : Text) : Text :=
  if hasDrive path then
    let drive := (path.drop 1).head?.toList.map Char.toLower
    '/' :: drive ++ ':' :: Percent.encode isPlain (path.drop 3)
  else Percent.encode isPlain path

/-- The address of a path.  One that starts with two separators must have a name behind its
host. -/
def ofPath (path : Path) : Except Failure String := do
  let text := path.toText
  let (host, rest) ← match Text.stripPrefix? ['/', '/'] text with
    | none => pure ([], text)
    | some shared =>
      if shared.elem '/' then
        pure (shared.takeWhile (· != '/'), shared.dropWhile (· != '/'))
      else throw .malformedUri
  let rest := if rest.head? = some '/' then rest else '/' :: rest
  return String.ofList ("file://".toList ++ Percent.encode isPlain host ++ encodePath rest)

/-- Whether an address names a document of settings, by its ending. -/
def isYaml (uri : String) : Bool :=
  let name := Text.lower uri.toList
  Text.endsWith ".yaml".toList name || Text.endsWith ".yml".toList name

end Uri

end HomeConfig
