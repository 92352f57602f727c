import HomeConfig.Text.Basic

/-!
# The token under the cursor

A token is a run of plain letters, digits, underscores and dots.  A cursor touches a token from
either side, so the token at an offset is made of the run that ends there and the run that starts
there (`tokenSpan`).

A signed offset is read the same way; a negative one counts from the end, and a token found from
there may run on at the front of the text.  An offset that leaves the text is refused.
-/

namespace HomeConfig

namespace Text

/-- A character of a token: what dotted names are made of. -/
def isTokenChar (c : Char) : Bool :=
  c.isAlphanum || c == '_' || c == '.'

/-- How long the run of token characters at the start of a text is. -/
def tokenRun (text : Text) : Nat :=
  (text.takeWhile isTokenChar).length

/-- The longest run of token characters that touches an offset of the text, as the offsets of its
two ends; `none` when there is no token character on either side. -/
def tokenSpan (text : Text) (offset : Nat) : Option (Nat × Nat) :=
  let left := tokenRun (text.take offset).reverse
  let right := tokenRun (text.drop offset)
  if left + right = 0 then none else some (offset - left, offset + right)

/-- A signed offset does not point into the text. -/
inductive OutOfText
  | offset
deriving DecidableEq, Repr

/-- The token span at a signed offset. -/
def tokenSpanAt (text : Text) (offset : Int) : Except OutOfText (Option (Int × Int)) :=
  if offset < -text.length ∨ (text.length : Int) < offset then .error .offset
  else if 0 ≤ offset then
    .ok ((tokenSpan text offset.toNat).map fun (start, stop) => (start, stop))
  else
    let tail := text.drop (text.length + offset).toNat
    let run := tokenRun tail
    let stop : Int := if run = tail.length then tokenRun text else offset + run
    .ok (if stop = offset then none else some (offset, stop))

end Text

end HomeConfig
