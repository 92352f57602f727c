import HomeConfig.Text.Basic

/-!
# Paths

A path is a root and the names behind it.  Separators are not part of it: repeated ones, one at
the end, and the name `.` say nothing.  A path that starts with exactly two separators keeps them.

The name `..` is kept by `Path.ofText`, since what it leads to depends on the file system.
`Path.normal` takes it literally and leaves out the name in front of it.
-/

namespace HomeConfig

/-- Where a path starts. -/
inductive Path.Root
  | here
  | root
  /-- A root written with two separators. -/
  | doubled
deriving DecidableEq, Repr

/-- A path of the file system. -/
structure Path where
  root : Path.Root
  names : List Text
deriving DecidableEq, Repr

namespace Path

/-- The text of a root. -/
def Root.toText : Root → Text
  | here => []
  | root => ['/']
  | doubled => ['/', '/']

/-- The root that a text starts with. -/
def rootOf (text : Text) : Root :=
  match (text.takeWhile (· == '/')).length with
  | 0 => .here
  | 2 => .doubled
  | _ => .root

/-- Whether a name leads anywhere. -/
def isName (name : Text) : Bool :=
  name != [] && name != ['.']

/-- The path that a text writes. -/
def ofText (text : Text) : Path :=
  ⟨rootOf text, (Text.splitAt '/' text).filter isName⟩

/-- The text of a path. -/
def toText (path : Path) : Text :=
  if path = ⟨.here, []⟩ then ['.'] else path.root.toText ++ ['/'].intercalate path.names

/-- Whether a path does not depend on where it is read. -/
def isAbsolute (path : Path) : Bool :=
  path.root != .here

/-- The path that a path leads to from a directory. -/
def join (directory path : Path) : Path :=
  if path.isAbsolute then path else ⟨directory.root, directory.names ++ path.names⟩

/-- The path without its last name. -/
def parent (path : Path) : Path :=
  ⟨path.root, path.names.dropLast⟩

/-- The names of a path in which `..` is taken literally; `passed` are the names so far, last one
first.  At a root it leads nowhere, elsewhere one without a name in front of it stays. -/
def normalNames (isAbsolute : Bool) (passed : List Text) : List Text → List Text
  | [] => passed.reverse
  | name :: rest =>
    if name = ['.', '.'] then
      match passed with
      | [] => normalNames isAbsolute (if isAbsolute then [] else [name]) rest
      | last :: before =>
        if last = ['.', '.'] then normalNames isAbsolute (name :: passed) rest
        else normalNames isAbsolute before rest
    else normalNames isAbsolute (name :: passed) rest

/-- The path in which `..` is taken literally. -/
def normal (path : Path) : Path :=
  ⟨path.root, normalNames path.isAbsolute [] path.names⟩

/-- The path that a value in a document names, which stands in a file of the given directory. -/
def resolve (directory : Path) (value : Text) : Path :=
  let path := ofText value
  if path.isAbsolute then path else (directory.join path).normal

end Path

end HomeConfig
