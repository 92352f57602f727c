import HomeConfig.Number.Numeral
import HomeConfig.Text.Base64
import HomeConfig.Yaml.Timestamp

/-!
# Values of documents

What a document says: scalars and collections of them.  A collection that is reached through an
alias is shared, and may contain itself, so collections are kept on a `Heap` and named by their
place there (`Datum`).  `Heap.unfold` writes a datum out as a finite `Value`, in which a collection
inside itself is a `cycle`.

The scalar types each have a reader from the text of a scalar.
-/

namespace HomeConfig

namespace Yaml

/-- A value without parts. -/
inductive Scalar
  | null
  | bool (value : Bool)
  | integer (value : Int)
  | number (value : Binary64)
  | text (value : Text)
  | bytes (value : List Nat)
  | moment (value : Timestamp)
deriving DecidableEq

namespace Scalar

/-- The integer that a truth value or an integer counts as. -/
def toInt? : Scalar → Option Int
  | bool value => some (if value then 1 else 0)
  | integer value => some value
  | _ => none

/-- Whether two scalars are the same key of a mapping.  Numbers are compared by value whatever
their type, and truth values count as numbers. -/
def sameKey (first second : Scalar) : Bool :=
  match first, second with
  | number x, number y => x.same y || (x == .nan && y == .nan)
  | number x, other => x.toInt?.isSome && x.toInt? == other.toInt?
  | other, number x => x.toInt?.isSome && x.toInt? == other.toInt?
  | moment (.time t), moment (.time u) => t.same u
  | first, second =>
    match first.toInt?, second.toInt? with
    | some n, some m => n == m
    | none, none => first == second
    | _, _ => false

/-! ## Reading -/

/-- A text without underscores. -/
def dropUnderscores (text : Text) : Text :=
  text.filter (· != '_')

/-- The truth value of a word. -/
def readBool (text : Text) : Except ContentFault Scalar :=
  let word := String.ofList (text.map Char.toLower)
  if ["yes", "true", "on"].contains word then .ok (bool true)
  else if ["no", "false", "off"].contains word then .ok (bool false)
  else .error .unknownWord

/-- The parts of a number to base sixty, added up from the last; `weight` is the weight of the
next part. -/
def sixtyBased (weight : Int) : List Int → Int
  | [] => 0
  | part :: others => part * weight + sixtyBased (weight * 60) others

/-- Turn a failed reading of a number into a fault. -/
def orFault {α : Type} : Option α → Except ContentFault α
  | some a => .ok a
  | none => .error .noSuchValue

/-- An integer in any of its notations. -/
def readInteger (text : Text) : Except ContentFault Scalar := do
  let digits := dropUnderscores text
  let first :: rest := digits | .error .empty
  let unsigned := if first = '-' ∨ first = '+' then rest else digits
  let magnitude ← (do
    if unsigned = ['0'] then pure 0
    else if Text.startsWith ['0', 'b'] unsigned then
      orFault (Numeral.integer? 2 (unsigned.drop 2))
    else if Text.startsWith ['0', 'x'] unsigned then
      orFault (Numeral.integer? 16 (unsigned.drop 2))
    else match unsigned with
      | [] => .error .empty
      | '0' :: _ => orFault (Numeral.integer? 8 unsigned)
      | _ =>
        if unsigned.contains ':' then
          let parts ← (Text.splitAt ':' unsigned).mapM fun part =>
            orFault (Numeral.integer? 10 part)
          pure (sixtyBased 1 parts.reverse)
        else orFault (Numeral.integer? 10 unsigned))
  pure (integer (if first = '-' then -magnitude else magnitude))

/-- The parts of a floating-point number to base sixty, added up from the last. -/
def sixtyBasedNumber (sum : Binary64) (weight : Int) :
    List Binary64 → Except ContentFault Binary64
  | [] => .ok sum
  | part :: others =>
    match Binary64.ofInt? weight with
    | none => .error .overflow
    | some factor => sixtyBasedNumber (sum + part * factor) (weight * 60) others

/-- A floating-point number in any of its notations. -/
def readNumber (text : Text) : Except ContentFault Scalar := do
  let digits := (dropUnderscores text).map Char.toLower
  let first :: rest := digits | .error .empty
  let unsigned := if first = '-' ∨ first = '+' then rest else digits
  if unsigned = ".nan".toList then pure (number .nan)
  else
    let magnitude ← (do
      if unsigned = ".inf".toList then pure (.infinite false)
      else if unsigned.contains ':' then
        let parts ← (Text.splitAt ':' unsigned).mapM fun part => orFault (Numeral.binary64? part)
        sixtyBasedNumber 0 1 parts.reverse
      else orFault (Numeral.binary64? unsigned))
    pure (number (if first = '-' then -magnitude else magnitude))

/-- A date or a time. -/
def readTimestamp (text : Text) : Except ContentFault Scalar :=
  (Timestamp.read text).map moment

/-- Why a text is no encoding of bytes: characters beyond the basic ones, or a fault of the
encoding. -/
def readBytes (text : Text) : Except String Scalar :=
  let isBasic (c : Char) : Bool := c.toNat < 0x80
  let offset := (text.takeWhile isBasic).length
  match text.drop offset with
  | [] => match Base64.decode text with
    | .ok value => .ok (bytes value)
    | .error fault => .error ("failed to decode base64 data: " ++ fault.message)
  | c :: rest =>
    let length := (rest.takeWhile (!isBasic ·)).length + 1
    let subject :=
      if length = 1 then
        "character '" ++ String.ofList (Hexadecimal.escape c) ++ s!"' in position {offset}"
      else s!"characters in position {offset}-{offset + length - 1}"
    .error ("failed to convert base64 data into ascii: 'ascii' codec can't encode " ++ subject ++
      ": ordinal not in range(128)")

end Scalar

/-- A scalar, or a collection on the heap. -/
inductive Datum
  | scalar (value : Scalar)
  | held (place : Nat)
deriving DecidableEq

/-- A collection on the heap. -/
inductive Collection
  | list (items : List Datum)
  | mapping (entries : List (Datum × Datum))
  | set (members : List Datum)
  | pairs (items : List (Datum × Datum))
deriving DecidableEq

/-- The collections of a document. -/
abbrev Heap := Array Collection

namespace Datum

/-- Whether two data are the same key.  Collections are never keys. -/
def sameKey : Datum → Datum → Bool
  | scalar first, scalar second => first.sameKey second
  | _, _ => false

end Datum

namespace Collection

/-- Set the value of a key: the first spelling of a key and its place stay, the last value
counts. -/
def insert (key value : Datum) : List (Datum × Datum) → List (Datum × Datum)
  | [] => [(key, value)]
  | (name, old) :: rest =>
    if name.sameKey key then (name, value) :: rest else (name, old) :: insert key value rest

end Collection

/-- A value written out in full. -/
inductive Value
  | scalar (value : Scalar)
  | list (items : List Value)
  | mapping (entries : List (Value × Value))
  | set (members : List Value)
  | pairs (items : List (Value × Value))
  /-- A collection inside itself. -/
  | cycle

namespace Heap

/-- Write a datum out.  `path` holds the collections it stands in; a path without repetition is
no longer than the heap, which bounds the depth. -/
def unfold (heap : Heap) : (bound : Nat) → (path : List Nat) → Datum → Value
  | _, _, .scalar value => .scalar value
  | 0, _, .held _ => .cycle
  | bound + 1, path, .held place =>
    if path.contains place then .cycle
    else
      let inside := unfold heap bound (place :: path)
      match heap[place]? with
      | none => .cycle
      | some (.list items) => .list (items.map inside)
      | some (.mapping entries) =>
        .mapping (entries.map fun (key, value) => (inside key, inside value))
      | some (.set members) => .set (members.map inside)
      | some (.pairs items) => .pairs (items.map fun (key, value) => (inside key, inside value))

/-- The value of a datum. -/
def value (heap : Heap) (datum : Datum) : Value :=
  unfold heap (heap.size + 1) [] datum

end Heap

end Yaml

end HomeConfig
