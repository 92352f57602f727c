import HomeConfig.Json.Basic
import HomeConfig.Text.Hexadecimal

/-!
# Writing JSON

The two ways this library writes JSON differ in a `Style`: what separates items and keys, and
whether characters beyond the basic block are escaped.
-/

namespace HomeConfig

namespace Json

/-- How a value is laid out. -/
structure Style where
  itemSeparator : String
  keySeparator : String
  /-- Whether everything beyond the printable basic characters is escaped. -/
  asciiOnly : Bool

/-- Blanks behind commas and colons, and nothing but basic characters. -/
def Style.spaced : Style := ⟨", ", ": ", true⟩

/-- No blanks, and characters as they are. -/
def Style.compact : Style := ⟨",", ":", false⟩

/-- A 16-bit unit as an escape. -/
def escapeUnit (unit : Nat) : List Char :=
  '\\' :: 'u' :: Hexadecimal.padded 4 unit

/-- A character as one escape, or as two when it lies beyond 16 bits. -/
def escapeChar (c : Char) : List Char :=
  if c.toNat < 0x10000 then escapeUnit c.toNat
  else
    let above := c.toNat - 0x10000
    escapeUnit (0xd800 + above / 0x400) ++ escapeUnit (0xdc00 + above % 0x400)

/-- A character between the quotes of a JSON string. -/
def writeChar (asciiOnly : Bool) (c : Char) : List Char :=
  if c = '"' then ['\\', '"']
  else if c = '\\' then ['\\', '\\']
  else if c = '\n' then ['\\', 'n']
  else if c = '\r' then ['\\', 'r']
  else if c = '\t' then ['\\', 't']
  else if c = '\x0c' then ['\\', 'f']
  else if c = '\x08' then ['\\', 'b']
  else if c.toNat < 0x20 then escapeUnit c.toNat
  else if asciiOnly && 0x7e < c.toNat then escapeChar c
  else [c]

/-- A JSON string with its quotes. -/
def writeString (asciiOnly : Bool) (s : String) : List Char :=
  '"' :: s.toList.flatMap (writeChar asciiOnly) ++ ['"']

/-- Floating-point values outside the finite ones are spelled out. -/
def numberSpelling : Binary64.Spelling := ⟨"Infinity", "NaN"⟩

mutual

/-- The text of a value. -/
def write (style : Style) : Json → List Char
  | null => "null".toList
  | bool true => "true".toList
  | bool false => "false".toList
  | integer value => (toString value).toList
  | number value => (value.render numberSpelling).toList
  | string value => writeString style.asciiOnly value
  | array items => '[' :: writeItems style items ++ [']']
  | object members => '\x7b' :: writeMembers style members ++ ['\x7d']

/-- The items of an array with what separates them. -/
def writeItems (style : Style) : List Json → List Char
  | [] => []
  | [item] => write style item
  | item :: rest => write style item ++ style.itemSeparator.toList ++ writeItems style rest

/-- The members of an object with what separates them. -/
def writeMembers (style : Style) : List (String × Json) → List Char
  | [] => []
  | [(name, value)] =>
    writeString style.asciiOnly name ++ style.keySeparator.toList ++ write style value
  | (name, value) :: rest =>
    writeString style.asciiOnly name ++ style.keySeparator.toList ++ write style value ++
      style.itemSeparator.toList ++ writeMembers style rest

end

/-- The text of a value in a style. -/
def render (style : Style) (value : Json) : String :=
  String.ofList (value.write style)

end Json

end HomeConfig
