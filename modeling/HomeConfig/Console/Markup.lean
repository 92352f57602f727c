import HomeConfig.Text.Basic
import HomeConfig.Text.Class.Blank
import HomeConfig.Text.Class.Case

/-!
# Marked text

Text for the console may hold tags in square brackets, which say how the text behind them looks.  A
closing tag names the tag that it closes, or closes the last one that is open.  What is in brackets
but does not look like a tag is text, and so is a tag behind a backslash.

Looks are not part of the plain text, so `plain?` only leaves tags out.  But every closing tag must
have a tag to close.
-/

namespace HomeConfig

namespace Markup

/-- A part of marked text. -/
inductive Part
  | text (content : Text)
  | opening (name : Text)
  | closing (name : Text)
deriving DecidableEq, Repr

/-- Whether a tag can start with a character. -/
def isTagStart (c : Char) : Bool :=
  ('a' ≤ c && c ≤ 'z') || c == '#' || c == '/' || c == '@'

/-- The content of the tag that a text starts with, and what follows it. -/
def tag? : Text → Option (Text × Text)
  | '[' :: c :: rest =>
    if isTagStart c then
      let content := rest.takeWhile fun c => c != '[' && c != ']'
      match rest.drop content.length with
      | ']' :: behind => some (c :: content, behind)
      | _ => none
    else none
  | _ => none

theorem length_lt_of_tag? {text content rest : Text} (found : tag? text = some (content, rest)) :
    rest.length < text.length := by
  unfold tag? at found
  split at found
  · rename_i c tail
    split at found
    · simp only at found
      split at found
      · rename_i behind shape
        simp only [Option.some.injEq, Prod.mk.injEq] at found
        have := congrArg List.length shape
        simp only [List.length_drop, List.length_cons] at this
        simp only [← found.2, List.length_cons]
        omega
      · simp at found
    · simp at found
  · simp at found

/-- A tag by its content.  What follows an equals sign in it is not part of its name. -/
def Part.ofTag (content : Text) : Part :=
  let name := content.takeWhile (· != '=')
  match name with
  | '/' :: name => .closing name
  | name => .opening name

/-- Backslashes and a character behind them that starts no tag.  A backslash in front of an opening
bracket is left out. -/
def plainChar (slashes : Nat) (c : Char) : Text :=
  List.replicate (if c = '[' then slashes - 1 else slashes) '\\' ++ [c]

/-- The parts of a marked text.  Of backslashes in front of a tag two stand for one, and a single
one makes the tag a text; `slashes` counts those just passed. -/
def parts (slashes : Nat) (text : Text) : List Part :=
  match shape : text with
  | [] => [.text (List.replicate slashes '\\')]
  | '\\' :: rest => parts (slashes + 1) rest
  | c :: rest =>
    match found : tag? (c :: rest) with
    | some (content, behind) =>
      have := length_lt_of_tag? found
      .text (List.replicate (slashes / 2) '\\') ::
        (if slashes % 2 = 1 then .text ('[' :: content ++ [']']) else Part.ofTag content) ::
        parts 0 behind
    | none => .text (plainChar slashes c) :: parts 0 rest
termination_by text.length
decreasing_by all_goals simp_all

/-- The words for looks that have a short form. -/
def shortForms : List (String × String) := [
  ("b", "bold"), ("d", "dim"), ("i", "italic"), ("u", "underline"), ("uu", "underline2"),
  ("r", "reverse"), ("c", "conceal"), ("s", "strike"), ("o", "overline")]

/-- The name of a tag as it is compared: in lower case, with one blank between its words, and with
the long form of a word that has a short one. -/
def nameOf (name : Text) : Text :=
  let words := (Text.splitAt ' ' (Text.lower (Text.trim name))).filter (!·.isEmpty)
  [' '].intercalate <| words.map fun word =>
    ((shortForms.lookup (String.ofList word)).map String.toList).getD word

/-- The tags that are open after a closing tag; `none` if it closes nothing.  The last one opened
stands first. -/
def close? (name : Text) (openTags : List Text) : Option (List Text) :=
  let name := nameOf name
  if name.isEmpty then
    match openTags with
    | [] => none
    | _ :: rest => some rest
  else if openTags.elem name then some (openTags.erase name) else none

/-- The plain text of parts, while some tags are open. -/
def plainOf (openTags : List Text) : List Part → Option Text
  | [] => some []
  | .text content :: rest => (plainOf openTags rest).map (content ++ ·)
  | .opening name :: rest => plainOf (nameOf name :: openTags) rest
  | .closing name :: rest => do plainOf (← close? name openTags) rest

/-- Whether a character is kept on the console. -/
def isShown (c : Char) : Bool :=
  c != '\x07' && c != '\x08' && c != '\x0b' && c != '\x0c' && c != '\r'

/-- The plain text of a marked text; `none` if a closing tag closes nothing. -/
def plain? (text : Text) : Option Text :=
  (plainOf [] (parts 0 text)).map (·.filter isShown)

end Markup

end HomeConfig
