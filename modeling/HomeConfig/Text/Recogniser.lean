import HomeConfig.Text.Basic

/-!
# Recognisers

A recogniser reads a fixed shape at a cursor: it moves the cursor over what it accepts or fails.
Every step takes the longest run it can and never gives a character back, so a recogniser has at
most one way to succeed.  `Text.scan` runs one over a whole text from left to right; a find is
followed by the next one behind its end, never inside it.
-/

namespace HomeConfig

/-- A place in a text: how many characters lie behind it and which lie ahead. -/
structure Cursor where
  offset : Nat
  rest : Text
deriving DecidableEq, Repr

/-- A reading at a cursor that may fail. -/
abbrev Recogniser := StateT Cursor Option

/-- A part of a text, with the offset at which it starts. -/
structure Excerpt where
  start : Nat
  text : Text
deriving DecidableEq, Repr

namespace Excerpt

/-- The offset behind the last character. -/
def stop (excerpt : Excerpt) : Nat :=
  excerpt.start + excerpt.text.length

end Excerpt

namespace Recogniser

/-- Move over the longest run of a class, which may be empty, and give it back. -/
def run (accepts : Char → Bool) : Recogniser Excerpt := fun cursor =>
  let taken := cursor.rest.takeWhile accepts
  some (⟨cursor.offset, taken⟩, ⟨cursor.offset + taken.length, cursor.rest.dropWhile accepts⟩)

/-- Move over the longest run of a class, which must not be empty. -/
def run1 (accepts : Char → Bool) : Recogniser Excerpt := do
  let found ← run accepts
  if found.text.isEmpty then failure else pure found

/-- Move over the longest run of a class. -/
def skip (accepts : Char → Bool) : Recogniser Unit := do
  let _ ← run accepts

/-- Move over one character of a class if there is one. -/
def skipOne (accepts : Char → Bool) : Recogniser Unit := fun cursor =>
  match cursor.rest with
  | c :: rest =>
    if accepts c then some ((), ⟨cursor.offset + 1, rest⟩) else some ((), cursor)
  | [] => some ((), cursor)

/-- Move over one character of a class. -/
def one (accepts : Char → Bool) : Recogniser Char := fun cursor =>
  match cursor.rest with
  | c :: rest => if accepts c then some (c, ⟨cursor.offset + 1, rest⟩) else none
  | [] => none

/-- Move over a given text, comparing characters with the given test. -/
def literalBy (same : Char → Char → Bool) : Text → Recogniser Unit
  | [] => pure ()
  | c :: expected => do
    let _ ← one (same c)
    literalBy same expected

/-- Move over exactly the given text. -/
def literal (expected : Text) : Recogniser Unit :=
  literalBy (· == ·) expected

/-- The first of several recognisers that succeeds. -/
def firstOf {α : Type} : List (Recogniser α) → Recogniser α
  | [] => failure
  | choice :: others => fun cursor =>
    match StateT.run choice cursor with
    | some result => some result
    | none => firstOf others cursor

/-- Succeed without moving if the next character, or the end of the text, passes the test. -/
def ahead (accepts : Option Char → Bool) : Recogniser Unit := fun cursor =>
  if accepts cursor.rest.head? then some ((), cursor) else none

/-- Fail unless the test holds. -/
def require (condition : Bool) : Recogniser Unit :=
  if condition then pure () else failure

end Recogniser

namespace Text

/-- All finds of a recogniser in a text, from left to right.  The recogniser is told which
character precedes the place it is tried at; `skip` counts the characters of the last find that
are still to be passed. -/
def scanFrom {α : Type} (find : Option Char → Recogniser α) (before : Option Char)
    (offset skip : Nat) : Text → List α
  | [] => []
  | c :: rest =>
    match skip with
    | skip + 1 => scanFrom find (some c) (offset + 1) skip rest
    | 0 =>
      match StateT.run (find before) ⟨offset, c :: rest⟩ with
      | none => scanFrom find (some c) (offset + 1) 0 rest
      | some (found, after) =>
        found :: scanFrom find (some c) (offset + 1) (after.offset - (offset + 1)) rest

/-- All finds of a recogniser in a text, from left to right, none inside another. -/
def scan {α : Type} (find : Option Char → Recogniser α) (text : Text) : List α :=
  scanFrom find none 0 0 text

/-- The first find of a recogniser in a text. -/
def search {α : Type} (find : Option Char → Recogniser α) (text : Text) : Option α :=
  (scan find text).head?

end Text

end HomeConfig
