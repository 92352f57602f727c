import HomeConfig.Text.Basic

/-!
# Base64

Four characters of an alphabet of sixty-four encode three bytes; padding signs fill the last group.
Decoding passes over characters outside the alphabet.  The text must end behind a full group, or
with enough padding signs to fill one.
-/

namespace HomeConfig

namespace Base64

/-- Why a text encodes no bytes. -/
inductive Fault
  /-- One character too many, which encodes no whole byte; the count of all of them. -/
  | loneCharacter (count : Nat)
  | padding
deriving DecidableEq, Repr

/-- The wording of a fault. -/
def Fault.message : Fault → String
  | .loneCharacter count =>
    s!"Invalid base64-encoded string: number of data characters ({count}) cannot be 1 more " ++
      "than a multiple of 4"
  | .padding => "Incorrect padding"

/-- The value of a character of the alphabet. -/
def value? (c : Char) : Option Nat :=
  if 'A' ≤ c ∧ c ≤ 'Z' then some (c.toNat - 'A'.toNat)
  else if 'a' ≤ c ∧ c ≤ 'z' then some (c.toNat - 'a'.toNat + 26)
  else if c.isDigit then some (c.toNat - '0'.toNat + 52)
  else if c = '+' then some 62
  else if c = '/' then some 63
  else none

/-- The character of a value below sixty-four. -/
def character (value : Nat) : Char :=
  if value < 26 then Char.ofNat ('A'.toNat + value)
  else if value < 52 then Char.ofNat ('a'.toNat + (value - 26))
  else if value < 62 then Char.ofNat ('0'.toNat + (value - 52))
  else if value = 62 then '+'
  else '/'

theorem value?_character : ∀ value < 64, value? (character value) = some value := by
  decide

/-- The text that encodes some bytes. -/
def encode : List Nat → Text
  | [] => []
  | [a] => [character (a / 4), character (a % 4 * 16), '=', '=']
  | [a, b] => [character (a / 4), character (a % 4 * 16 + b / 16), character (b % 16 * 4), '=']
  | a :: b :: c :: rest =>
    character (a / 4) :: character (a % 4 * 16 + b / 16) :: character (b % 16 * 4 + c / 64) ::
      character (c % 64) :: encode rest

/-- Decode from inside a group: `place` characters of it are read, `left` holds their bits that
have made no byte yet, `pads` padding signs follow them, and `count` bytes are complete. -/
def decodeFrom (place left pads count : Nat) : Text → Except Fault (List Nat)
  | [] =>
    if place = 0 then .ok []
    else if place = 1 then .error (.loneCharacter (count / 3 * 4 + 1))
    else .error .padding
  | c :: rest =>
    if c = '=' then
      if 2 ≤ place then
        if 4 ≤ place + pads + 1 then .ok [] else decodeFrom place left (pads + 1) count rest
      else decodeFrom place left pads count rest
    else match value? c with
      | none => decodeFrom place left pads count rest
      | some value =>
        if place = 0 then decodeFrom 1 value 0 count rest
        else if place = 1 then
          (decodeFrom 2 (value % 16) 0 (count + 1) rest).map ((left * 4 + value / 16) :: ·)
        else if place = 2 then
          (decodeFrom 3 (value % 4) 0 (count + 1) rest).map ((left * 16 + value / 4) :: ·)
        else (decodeFrom 0 0 0 (count + 1) rest).map ((left * 64 + value) :: ·)

/-- The bytes that a text encodes. -/
def decode (text : Text) : Except Fault (List Nat) :=
  decodeFrom 0 0 0 0 text

end Base64

end HomeConfig
