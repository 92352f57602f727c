import HomeConfig.Text.Hexadecimal

/-!
# UTF-8

Decoding reads one character at a time (`Utf8.step`).  Bytes that encode no character are a fault
that covers the longest part which could still have begun one; a strict reader stops there and a
lenient one puts a replacement character in its place.
-/

namespace HomeConfig

namespace Utf8

/-- Why bytes encode no character. -/
inductive Fault
  | startByte
  | continuationByte
  | truncated
deriving DecidableEq, Repr

/-- The wording of a fault. -/
def Fault.reason : Fault → String
  | .startByte => "invalid start byte"
  | .continuationByte => "invalid continuation byte"
  | .truncated => "unexpected end of data"

/-- A byte that continues a character. -/
def isContinuation (byte : Nat) : Bool :=
  0x80 ≤ byte && byte < 0xc0

/-- How many bytes a character has that starts with the given byte; none starts with zero. -/
def lengthFrom (first : Nat) : Nat :=
  if first < 0x80 then 1
  else if first < 0xc2 then 0
  else if first < 0xe0 then 2
  else if first < 0xf0 then 3
  else if first < 0xf5 then 4
  else 0

/-- Whether the second byte is one that may follow the first: it may not make the form longer than
needed, a surrogate, or a number beyond the last character. -/
def mayFollow (first second : Nat) : Bool :=
  isContinuation second &&
    (if first = 0xe0 then 0xa0 ≤ second
     else if first = 0xed then second < 0xa0
     else if first = 0xf0 then 0x90 ≤ second
     else if first = 0xf4 then second < 0x90
     else true)

/-- The payload of the first byte of a character of the given length. -/
def payload (length first : Nat) : Nat :=
  if length ≤ 1 then first
  else if length = 2 then first % 0x20
  else if length = 3 then first % 0x10
  else first % 0x08

/-- Read the bytes behind the first two. -/
def continueFrom (value read : Nat) : (missing : Nat) → List Nat → Except (Fault × Nat) Char
  | 0, _ => .ok (Char.ofNat value)
  | _ + 1, [] => .error (.truncated, read)
  | missing + 1, byte :: rest =>
    if isContinuation byte then continueFrom (value * 0x40 + byte % 0x40) (read + 1) missing rest
    else .error (.continuationByte, read)

/-- The character that bytes start with and its length, or what is wrong and with how many
bytes. -/
def step (first : Nat) (rest : List Nat) : Except (Fault × Nat) (Char × Nat) :=
  match lengthFrom first with
  | 0 => .error (.startByte, 1)
  | 1 => .ok (Char.ofNat first, 1)
  | length + 1 =>
    match rest with
    | [] => .error (.truncated, 1)
    | second :: others =>
      if mayFollow first second then
        (continueFrom (payload (length + 1) first * 0x40 + second % 0x40) 2 (length - 1) others).map
          (·, length + 1)
      else .error (.continuationByte, 1)

/-- A fault in a sequence of bytes: what, where and how many bytes. -/
structure DecodeError where
  fault : Fault
  offset : Nat
  length : Nat
  first : Nat
deriving DecidableEq, Repr

/-- The message of a fault. -/
def DecodeError.message (error : DecodeError) : String :=
  if error.length = 1 then
    "'utf-8' codec can't decode byte 0x" ++
      String.ofList (Hexadecimal.padded 2 error.first) ++
      s!" in position {error.offset}: " ++ error.fault.reason
  else
    s!"'utf-8' codec can't decode bytes in position {error.offset}-" ++
      s!"{error.offset + error.length - 1}: " ++ error.fault.reason

/-- Decode bytes up to the first fault; `skip` counts bytes of a character already read. -/
def decodeFrom (offset skip : Nat) : List Nat → Except DecodeError Text
  | [] => .ok []
  | byte :: rest =>
    match skip with
    | skip + 1 => decodeFrom (offset + 1) skip rest
    | 0 =>
      match step byte rest with
      | .ok (c, length) => (decodeFrom (offset + 1) (length - 1) rest).map (c :: ·)
      | .error (fault, length) => .error ⟨fault, offset, length, byte⟩

/-- Decode bytes, all of which must encode characters. -/
def decode (bytes : List Nat) : Except DecodeError Text :=
  decodeFrom 0 0 bytes

/-- Decode bytes with a replacement character for every fault. -/
def decodeLenientFrom (skip : Nat) : List Nat → Text
  | [] => []
  | byte :: rest =>
    match skip with
    | skip + 1 => decodeLenientFrom skip rest
    | 0 =>
      match step byte rest with
      | .ok (c, length) => c :: decodeLenientFrom (length - 1) rest
      | .error (_, length) => '\ufffd' :: decodeLenientFrom (length - 1) rest

/-- Decode bytes with a replacement character for every fault. -/
def decodeLenient (bytes : List Nat) : Text :=
  decodeLenientFrom 0 bytes

/-- The bytes of a text. -/
def encode (text : Text) : List Nat :=
  text.flatMap fun c => (String.utf8EncodeChar c).map UInt8.toNat

end Utf8

end HomeConfig
