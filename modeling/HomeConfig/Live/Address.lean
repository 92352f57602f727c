import HomeConfig.Files.Host
import HomeConfig.Live.Request
import HomeConfig.Number.Numeral
import HomeConfig.Text.Base64

/-!
# Addresses as they are requested

An address is put together from what a user wrote, so it is brought into one form before it is
requested: the scheme and the host in lower case, the usual port left out, the path without `.`
and `..`, and every character that may not stand in its part encoded.  Some texts have no such
form, and no request can be sent to them (`Address.ofText?`).

An address without a host is taken as a path.  One that names a user is requested with the
credential of that user.
-/

namespace HomeConfig

/-- The parts of an address in the form in which it is requested. -/
structure Address where
  scheme : Text
  /-- A user, with a password behind a colon if there is one. -/
  user : Text
  host : Text
  port : Option Int
  path : Text
  query : Option Text
  fragment : Option Text
deriving DecidableEq, Repr

namespace Address

/-! ## Characters -/

/-- A printable character of the basic block, apart from some. -/
def isPrintableBut (others : String) (c : Char) : Bool :=
  0x20 < c.toNat && c.toNat < 0x7f && !others.toList.contains c

/-- Whether a character may stand in a path. -/
def isPathChar : Char → Bool :=
  isPrintableBut "\"#<>?\x60\x7b\x7d"

/-- Whether a character may stand in the name or the password of a user. -/
def isUserChar : Char → Bool :=
  isPrintableBut "\"#<>?\x60\x7b\x7d/;=@[]\\^|"

/-- Whether a character may stand in a host. -/
def isHostChar : Char → Bool :=
  isPrintableBut "#/:<>?@[]^"

/-- Whether a character may stand in a query. -/
def isQueryChar : Char → Bool :=
  isPrintableBut "\"#<>"

/-- Whether a character may stand in a fragment. -/
def isFragmentChar : Char → Bool :=
  isPrintableBut "\"<>\x60"

/-! ## Parts -/

/-- Cut a text in front of the first character that ends a part. -/
def cutAt (ends : Char → Bool) (text : Text) : Text × Text :=
  (text.takeWhile (!ends ·), text.dropWhile (!ends ·))

/-- The scheme of a text in lower case, and what follows it. -/
def splitScheme (text : Text) : Text × Text :=
  let isSchemeChar (c : Char) : Bool := c.isAlphanum || c == '+' || c == '.' || c == '-'
  match Text.cut ':' text with
  | (scheme, some rest) =>
    if scheme.head?.all Char.isAlpha && scheme.all isSchemeChar then
      (scheme.map Char.toLower, rest)
    else ([], text)
  | (_, none) => ([], text)

/-- The port that need not be written. -/
def usualPort? (scheme : Text) : Option Int :=
  [("ftp", 21), ("http", 80), ("https", 443), ("ws", 80), ("wss", 443)].lookup
    (String.ofList scheme)

/-- A port, which must be a number if it is written; the usual one is left out. -/
def readPort? (scheme text : Text) : Option (Option Int) :=
  if text.isEmpty then some none
  else (Numeral.integer? 10 text).map fun port => (some port).filter (usualPort? scheme != some ·)

/-- Whether a host is written as four numbers. -/
def isNumeric (host : Text) : Bool :=
  let parts := Text.splitAt '.' host
  parts.length == 4 && parts.all fun part => !part.isEmpty && part.all Char.isDigit

/-- A host, in lower case unless it is a number in brackets. -/
def readHost? (host : Text) : Option Text :=
  if host.head? = some '[' ∧ host.getLast? = some ']' then
    some (host.drop 1).dropLast |>.filter Host.isVersionSix
  else if isNumeric host then some host |>.filter Host.isDottedQuad
  else if host.all (·.toNat < 0x80) then some (Percent.complete isHostChar (host.map Char.toLower))
  else some host

/-- The host at the start of a text, and the port behind it. -/
def splitHost (text : Text) : Text × Text :=
  let dropColon : Text → Text
    | ':' :: rest => rest
    | rest => rest
  let behind := (text.reverse.takeWhile (· != ']')).reverse
  if text.head? = some '[' ∧ text.elem ']' then
    (text.take (text.length - behind.length), dropColon behind)
  else
    let (host, rest) := cutAt (fun c => c == ':' || c == '@') text
    (host, dropColon rest)

/-- The user in front of a host, if one is named, and the rest. -/
def splitUser (text : Text) : Text × Text :=
  match Text.cut '@' text with
  | (user, some rest) => (user, rest)
  | (_, none) => ([], text)

/-- A path without steps that lead nowhere or back. -/
def withoutSteps (passed : List Text) : List Text → List Text
  | [] => passed.reverse
  | part :: rest =>
    if part = ['.'] then withoutSteps passed rest
    else if part = ['.', '.'] then
      withoutSteps (if passed = [[]] then passed else passed.drop 1) rest
    else withoutSteps (part :: passed) rest

/-- What follows the sign that introduces a part, if the part is there. -/
def behindSign (accepts : Char → Bool) : Text → Option Text
  | [] => none
  | _ :: part => some (Percent.complete accepts part)

/-- Whether a path could be taken for another part when nothing stands in front of it. -/
def isAmbiguous (path : Text) : Bool :=
  Text.startsWith ['/', '/'] path || Text.startsWith [':'] path

/-- The address that a text writes, if a request can be sent to it. -/
def ofText? (text : Text) : Option Address := do
  let (scheme, rest) := splitScheme text
  let (authority, rest) := match Text.stripPrefix? ['/', '/'] rest with
    | some rest => cutAt (fun c => c == '/' || c == '?' || c == '#') rest
    | none => ([], rest)
  let (path, rest) := cutAt (fun c => c == '?' || c == '#') rest
  let (query, fragment) := cutAt (· == '#') rest
  let (user, authority) := splitUser authority
  let (host, port) := splitHost authority
  let host ← readHost? host
  let port ← readPort? scheme port
  if scheme.isEmpty && user.isEmpty && host.isEmpty && port.isNone && isAmbiguous path then none
  let path := if scheme.isEmpty && host.isEmpty then path
    else ['/'].intercalate (withoutSteps [] (Text.splitAt '/' path))
  some {
    scheme := scheme
    user := Percent.complete isUserChar user
    host := host
    port := port
    path := Percent.complete isPathChar path
    query := behindSign isQueryChar query
    fragment := behindSign isFragmentChar fragment }

/-! ## Writing -/

/-- An address as a text.  Without a host it is a path. -/
def toText (address : Address) : Text :=
  let query := address.query.elim [] ('?' :: ·)
  if address.scheme.isEmpty || address.host.isEmpty then
    '/' :: (address.path ++ query).dropWhile (· == '/')
  else
    let user := if address.user.isEmpty then [] else address.user ++ ['@']
    let host := if address.host.elem ':' then '[' :: address.host ++ [']'] else address.host
    let port := address.port.elim [] fun port => ':' :: (toString port).toList
    address.scheme ++ "://".toList ++ user ++ host ++ port ++ address.path ++ query ++
      address.fragment.elim [] ('#' :: ·)

/-- The credential of the user that an address names. -/
def credential? (address : Address) : Option Text :=
  let (name, password) := Text.cut ':' address.user
  let credential := Percent.decode name ++ ':' :: Percent.decode (password.getD [])
  if credential = [':'] then none else some (Base64.encode (Utf8.encode credential))

end Address

namespace Access

/-- The greatest length of an address. -/
def lengthLimit : Nat := 65536

/-- The address of an endpoint in the form in which it is requested; `none` if no request can be
sent to it. -/
def address? (access : Access) (endpoint : Endpoint) : Option Address :=
  let text := (access.url endpoint).toList
  if lengthLimit < text.length || text.any fun c => c.toNat < 0x20 || c.toNat == 0x7f then none
  else Address.ofText? text

/-- The address of an endpoint as it is requested. -/
def requestUrl (access : Access) (endpoint : Endpoint) : String :=
  String.ofList ((access.address? endpoint).elim [] Address.toText)

/-- What a request is authorised with: the token, unless the address names a user. -/
def authorization (access : Access) (endpoint : Endpoint) : String :=
  match (access.address? endpoint).bind Address.credential? with
  | some credential => "Basic " ++ String.ofList credential
  | none => "Bearer " ++ access.token

end Access

end HomeConfig
