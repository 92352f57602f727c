import HomeConfig.Failure
import HomeConfig.Files.Path

/-!
# The file system

Which files and directories exist.  A path is followed name by name from the root: every name but
the last must lead to a directory, and `..` leads to the directory above.  Names and paths beyond
the limits of the system are no paths at all, and asking for one fails.
-/

namespace HomeConfig

/-- What can stand at a path. -/
inductive FileTree.Kind
  | file
  | directory
deriving DecidableEq, Repr

/-- The files and directories that exist, each by the names that lead to it from the root. -/
structure FileTree where
  files : List (List Text)
  directories : List (List Text)

namespace FileTree

/-- The lists of names that lead to the directories a path runs through. -/
def above (names : List Text) : List (List Text) :=
  (List.range names.length).map names.take

/-- The tree of some files and directories, with all directories above them. -/
def ofPaths (files directories : List Path) : FileTree where
  files := files.map (·.names)
  directories :=
    [] :: directories.map (·.names) ++ (files ++ directories).flatMap fun path => above path.names

/-- What stands at the end of a list of names. -/
def kind? (tree : FileTree) (names : List Text) : Option Kind :=
  if tree.directories.contains names then some .directory
  else if tree.files.contains names then some .file
  else none

/-- The greatest number of bytes in a name. -/
def nameLimit : Nat := 255

/-- The number of bytes that a path may not reach. -/
def pathLimit : Nat := 4096

/-- How many bytes a text takes. -/
def size (text : Text) : Nat :=
  text.foldr (fun c size => c.utf8Size + size) 0

/-- Follow names from a place. -/
def follow (tree : FileTree) (place : List Text) : List Text → Except Failure (Option Kind)
  | [] => .ok (tree.kind? place)
  | name :: rest =>
    match tree.kind? place with
    | some .directory =>
      if name = ['.', '.'] then follow tree place.dropLast rest
      else if nameLimit < size name then .error .pathTooLong
      else follow tree (place ++ [name]) rest
    | some .file => .ok none
    | none => .ok none

/-- What stands at a path.  Paths that are not absolute start at the root. -/
def find (tree : FileTree) (path : Path) : Except Failure (Option Kind) :=
  let text := path.toText
  if text.elem '\x00' then .ok none
  else if pathLimit ≤ size text then .error .pathTooLong
  else tree.follow [] path.names

/-- Whether a file stands at a path. -/
def hasFile (tree : FileTree) (path : Path) : Except Failure Bool :=
  return (← tree.find path) == some .file

/-- Whether a directory stands at a path. -/
def hasDirectory (tree : FileTree) (path : Path) : Except Failure Bool :=
  return (← tree.find path) == some .directory

/-- Whether anything stands at a path. -/
def has (tree : FileTree) (path : Path) : Except Failure Bool :=
  return (← tree.find path).isSome

end FileTree

end HomeConfig
