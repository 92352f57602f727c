import HomeConfig.Text.Recogniser

/-!
# Template expressions in a document

An expression is opened by two braces and closed by two.  The cursor is inside one when the last
opening before it comes after the last closing (`isInsideTemplate`); the expression around the
cursor runs from there to the first closing behind it (`enclosingTemplate`).
-/

namespace HomeConfig

namespace Document

/-- The two braces that open an expression. -/
def opening : Text := ['\x7b', '\x7b']

/-- The two braces that close an expression. -/
def closing : Text := ['\x7d', '\x7d']

/-- Whether an expression opened in the text has not been closed by its end. -/
def isInsideTemplate (text : Text) : Bool :=
  match Text.lastIndex? opening text, Text.lastIndex? closing text with
  | none, _ => false
  | some _, none => true
  | some opened, some closed => closed < opened

/-- The expression around an offset, with its braces.  No closing brace may stand between the
opening and the offset. -/
def enclosingTemplate (text : Text) (offset : Nat) : Option Text := do
  let passed := text.take offset
  let opened ← Text.lastIndex? opening passed
  if (passed.drop (opened + 2)).any (· == '\x7d') then none
  else
    let closed ← Text.firstIndex? closing (text.drop offset)
    pure ((text.take (passed.length + closed + 2)).drop opened)

/-- The expression around a signed offset. -/
def enclosingTemplateAt (text : Text) (offset : Int) : Option Text :=
  enclosingTemplate text (Text.bound text.length offset)

/-- An expression that opens and closes on one line: it ends at the first closing. -/
def expression (_before : Option Char) : Recogniser Excerpt := do
  let start ← get
  Recogniser.literal opening
  let inside := (← get).rest.takeWhile (· != '\n')
  match Text.firstIndex? closing inside with
  | none => failure
  | some length =>
    set (Cursor.mk (start.offset + length + 4) (start.rest.drop (length + 4)))
    pure ⟨start.offset, start.rest.take (length + 4)⟩

/-- The expressions of a text that open and close on one line, none inside another. -/
def expressions (text : Text) : List Excerpt :=
  Text.scan expression text

end Document

end HomeConfig
