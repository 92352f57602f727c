import HomeConfig.Text.Percent

/-!
# Hosts in brackets

A host in brackets is an address of version six, or one of a version yet to come.
-/

namespace HomeConfig

namespace Host

/-- Up to four hexadecimal digits. -/
def isGroup (group : Text) : Bool :=
  !group.isEmpty && group.length ≤ 4 && group.all Hexadecimal.isDigit

/-- A number of up to three digits, below 256 and without leading zeros. -/
def isOctet (octet : Text) : Bool :=
  !octet.isEmpty && octet.length ≤ 3 && octet.all Char.isDigit &&
    (octet.length = 1 || octet.head? != some '0') &&
    octet.foldl (fun value c => 10 * value + (c.toNat - '0'.toNat)) 0 < 256

/-- Four octets with dots between them. -/
def isDottedQuad (text : Text) : Bool :=
  let octets := Text.splitAt '.' text
  octets.length = 4 && octets.all isOctet

/-- How many places of an address a group takes; four octets stand for two groups. -/
def width? (isLast : Bool) (group : Text) : Option Nat :=
  if isGroup group then some 1
  else if isLast && isDottedQuad group then some 2
  else none

/-- How many places some groups take that are written next to each other. -/
def widthOf (atEnd : Bool) : List Text → Option Nat
  | [] => some 0
  | group :: rest => do
    pure ((← width? (atEnd && rest.isEmpty) group) + (← widthOf atEnd rest))

/-- The groups of a text; an empty text has none. -/
def groups (text : Text) : List Text :=
  if text.isEmpty then [] else Text.splitAt ':' text

/-- An address of version six: eight places, of which one run may be left out. -/
def isVersionSix (address : Text) : Bool :=
  let plain := (Text.cut '%' address).1
  let scope := (Text.cut '%' address).2
  let width := match Text.firstIndex? [':', ':'] plain with
    | none => (widthOf true (groups plain)).map (· == 8)
    | some place => do
      let before ← widthOf false (groups (plain.take place))
      let after ← widthOf true (groups (plain.drop (place + 2)))
      pure (before + after ≤ 7)
  width == some true && scope.all fun scope => !scope.isEmpty && !scope.elem '%'

/-- An address of another version: its number, a dot, and anything behind it. -/
def isOtherVersion : Text → Bool
  | 'v' :: rest =>
    match Text.cut '.' rest with
    | (version, some address) =>
      !version.isEmpty && version.all Hexadecimal.isDigit &&
        !address.isEmpty && !address.elem '\n'
    | (_, none) => false
  | _ => false

/-- Whether a text may stand in brackets. -/
def isBracketable (host : Text) : Bool :=
  if host.head? = some 'v' then isOtherVersion host else isVersionSix host

/-- The characters that are written like one of the signs that divide an address. -/
def lookalikes : List Nat :=
  [0x2047, 0x2048, 0x2049, 0x2100, 0x2101, 0x2105, 0x2106, 0x2a74, 0xfe13, 0xfe16, 0xfe55, 0xfe56,
   0xfe5f, 0xfe6b, 0xff03, 0xff0f, 0xff1a, 0xff1f, 0xff20]

/-- Whether a text may stand as the host of an address: its brackets belong together, and nothing
in it looks like a sign that divides the address. -/
def isValid (host : Text) : Bool :=
  (if host.elem '[' && host.elem ']' then
    isBracketable ((Text.cut ']' ((Text.cut '[' host).2.getD [])).1)
  else !host.elem '[' && !host.elem ']') &&
  host.all fun c => !lookalikes.contains c.toNat

end Host

end HomeConfig
