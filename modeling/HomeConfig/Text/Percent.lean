import HomeConfig.Text.Hexadecimal
import HomeConfig.Text.Utf8

/-!
# Percent encoding

Inside an address a byte can be written as a percent sign and two hexadecimal digits.  A character
is encoded as the bytes it has in UTF-8.  Decoding is lenient: a percent sign without two digits
stands for itself, and bytes that encode no character are replaced.

A character beyond the basic block is never part of an encoded one, so it ends the run of bytes
that are decoded together.
-/

namespace HomeConfig

namespace Percent

/-- The byte that two digits write. -/
def byte? (high low : Char) : Option Nat :=
  Hexadecimal.number? [high, low]

/-- Decode a text; `run` holds the bytes read so far that are decoded together, last one first. -/
def decodeFrom (run : List Nat) : Text → Text
  | '%' :: high :: low :: rest =>
    match byte? high low with
    | some byte => decodeFrom (byte :: run) rest
    | none => decodeFrom ('%'.toNat :: run) (high :: low :: rest)
  | c :: rest =>
    if c.toNat < 0x80 then decodeFrom (c.toNat :: run) rest
    else Utf8.decodeLenient run.reverse ++ c :: decodeFrom [] rest
  | [] => Utf8.decodeLenient run.reverse

/-- A text with its encoded characters decoded. -/
def decode (text : Text) : Text :=
  decodeFrom [] text

/-- A string with its encoded characters decoded. -/
def decodeString (text : String) : String :=
  String.ofList (decode text.toList)

/-- A byte as a percent sign and two digits. -/
def encodeByte (byte : Nat) : Text :=
  '%' :: (Hexadecimal.padded 2 byte).map Char.toUpper

/-- A character, encoded unless it is to be kept. -/
def encodeChar (keep : Char → Bool) (c : Char) : Text :=
  if keep c then [c] else (Utf8.encode [c]).flatMap encodeByte

/-- A text in which all characters are encoded but those to be kept. -/
def encode (keep : Char → Bool) (text : Text) : Text :=
  text.flatMap (encodeChar keep)

/-- The same for a text that may hold encoded characters already; these stay as they are. -/
def complete (keep : Char → Bool) : Text → Text
  | '%' :: high :: low :: rest =>
    if (byte? high low).isSome then '%' :: high :: low :: complete keep rest
    else encodeChar keep '%' ++ complete keep (high :: low :: rest)
  | c :: rest => encodeChar keep c ++ complete keep rest
  | [] => []

end Percent

end HomeConfig
