import RowFilter.Text.Lowercase
import RowFilter.Url.Address
import RowFilter.Url.Basic
import RowFilter.Url.Domain.Reader
import RowFilter.Url.FormData
import RowFilter.Url.Path

/-!
# Reading URLs

A text is read as a scheme and, after two slashes, an authority, a path and a query. The authority
may name a user with a password, a host and a port. Blanks and controls at either end are dropped,
and tabs and line breaks everywhere. The hosts of web addresses are checked more strictly, and kept
as plain names: such a URL is only read to name its scheme.
-/

namespace RowFilter.Url

open Number Text

/-- Whether a character is dropped at either end of a URL. -/
def isMargin (c : Char) : Bool := c.toNat ≤ 0x20

/-- The text without what is dropped from it. -/
def stripped (text : List Char) : List Char :=
  (((text.dropWhile isMargin).reverse.dropWhile isMargin).reverse).filter fun c =>
    !(c = '\t' || c = '\n' || c = '\r')

/-- Whether a scheme may hold the character after its first letter. -/
def isSchemeChar (c : Char) : Bool := c.isAlphanum || c = '+' || c = '-' || c = '.'

/-- The scheme that a text starts with, in lower case, and what follows its colon. -/
def splitScheme? (text : List Char) : Option (String × List Char) :=
  let (scheme, rest) := text.span isSchemeChar
  match scheme, rest with
  | first :: _, ':' :: rest =>
    if first.isAlpha then some (String.ofList (scheme.map Char.toLower), rest) else none
  | _, _ => none

/-- Whether the scheme is one of web addresses, where a backslash counts as a slash. -/
def isWebScheme (scheme : String) : Bool := ["http", "https", "ws", "wss", "ftp"].contains scheme

/-- Whether a character ends an authority. -/
def endsAuthority (web : Bool) (c : Char) : Bool :=
  c = '/' || c = '?' || c = '#' || (web && c = '\\')

/-- The user name and the password of what stands before the at sign; an empty password is none. -/
def readUserinfo (userinfo : List Char) : String × Option String :=
  let (user, rest) := userinfo.span (· ≠ ':')
  let encoded (text : List Char) : String := String.ofList (encodeIf isOutsideUserinfo text)
  let password := rest.drop 1
  (encoded user, if password.isEmpty then none else some (encoded password))

/-- The characters up to a colon that is not between brackets, and the rest. -/
def splitHost (bracketed : Bool) : List Char → List Char × List Char
  | [] => ([], [])
  | c :: rest =>
    if c = ':' && !bracketed then ([], c :: rest)
    else
      let split := splitHost (if c = '[' then true else if c = ']' then false else bracketed) rest
      (c :: split.1, split.2)

/-- Reads an address between brackets. -/
def readLongAddress (text : List Char) : Except Fault String :=
  if text.getLast? = some ']' then
    match Address.read? (text.drop 1).dropLast with
    | some address => .ok (String.ofList (Address.write address))
    | none => .error .badLongAddress
  else .error .badLongAddress

/-- Reads a host. -/
def readHost (text : List Char) : Except Fault String :=
  if text.head? = some '[' then readLongAddress text
  else if text.any Domain.isOutsideHost then .error .badHostCharacter
  else .ok (String.ofList (encodeIf isControl text))

/-- Reads the host of a web address. -/
def readWebHost (text : List Char) : Except Fault String :=
  if text.head? = some '[' then readLongAddress text
  else if text.isEmpty then .error .emptyHost
  else
    match Domain.read?
      (textWithReplacements (FormData.percentDecode (encode (String.ofList text)))).toList with
    | none => .error .badDomainName
    | some [] => .error .emptyHost
    | some name =>
      if Address.endsInNumber name && !Address.isShort name then .error .badShortAddress
      else .ok (String.ofList name)

/-- Reads a port after its colon. What follows its digits belongs to the path and starts with a
backslash. -/
def readPort (text : List Char) : Except Fault (Option Nat × List Char) :=
  let (digits, rest) := spanDigits text
  let port := positional 10 digits
  if 65535 < port then .error .badPort
  else if rest.isEmpty || rest.head? = some '\\' then
    .ok (if digits.isEmpty then none else some port, rest)
  else .error .badPort

/-- Reads the port after a host, if there is one. -/
def readPortOrEnd (text : List Char) : Except Fault (Option Nat × List Char) :=
  match text with
  | ':' :: rest => readPort rest
  | rest => .ok (none, rest)

/-- What stands before the question mark and what follows it; a fragment is dropped. -/
def splitQuery (text : List Char) : List Char × List Char :=
  let (path, query) := (text.takeWhile (· ≠ '#')).span (· ≠ '?')
  (path, query.drop 1)

/-- The path of segments after an authority, which may be empty. -/
def hierarchicalPath (path : List Char) : String :=
  if path.isEmpty then "" else String.ofList (pathChars path)

/-- The path of a URL without slashes, which has no segments. -/
def opaquePath (path : List Char) : String := String.ofList (encodeIf isControl path)

/-- The URL with the path and query of what follows its authority or its scheme. -/
def withPathAndQuery (url : Url) (path : List Char → String) (text : List Char) : Url :=
  { url with path := path (splitQuery text).1, query := String.ofList (splitQuery text).2 }

/-- Reads what follows the two slashes. -/
def readAuthority (scheme : String) (text : List Char) : Except Fault Url := do
  let web := isWebScheme scheme
  let (authority, tail) := text.span fun c => !endsAuthority web c
  let (userinfo, place) := (splitAtLast? '@' authority).getD ([], authority)
  let (user, password) := readUserinfo userinfo
  let (hostChars, portChars) := splitHost false place
  let named := !user.isEmpty || password.isSome
  if place.isEmpty && !tail.isEmpty && userinfo.isEmpty && (splitAtLast? '@' authority).isSome then
    throw .emptyHost
  let host ← if web then readWebHost hostChars else readHost hostChars
  if host.isEmpty && (named || !portChars.isEmpty) then throw .emptyHost
  let (port, rest) ← readPortOrEnd portChars
  let url : Url :=
    { scheme, user, password, host := if host.isEmpty then none else some host, port }
  return url.withPathAndQuery hierarchicalPath (rest ++ tail)

/-- Whether a character counts as a slash in web addresses and in the addresses of local files. -/
def isAnySlash (c : Char) : Bool := c = '/' || c = '\\'

/-- Reads what follows the colon in the address of a local file: at most a host, unless it is the
letter of a drive. -/
def readLocalFile (scheme : String) (text : List Char) : Except Fault Url :=
  let host := (text.drop 2).takeWhile fun c => !endsAuthority true c
  if (text.take 2).length = 2 && (text.take 2).all isAnySlash && !host.isEmpty &&
      !isDriveLetter host then
    (readWebHost host).map fun host => { scheme, host := some host }
  else .ok { scheme }

/-- Reads what follows the colon of a scheme. -/
def readAfterScheme (scheme : String) (text : List Char) : Except Fault Url :=
  if isWebScheme scheme then readAuthority scheme (text.dropWhile isAnySlash)
  else if scheme = "file" then readLocalFile scheme text
  else match text with
    | '/' :: '/' :: rest => readAuthority scheme rest
    | '/' :: rest => .ok (withPathAndQuery { scheme } hierarchicalPath ('/' :: rest))
    | rest => .ok (withPathAndQuery { scheme } opaquePath rest)

/-- Reads a text as a URL. -/
def read (text : String) : Except Fault Url :=
  match splitScheme? (stripped text.toList) with
  | none => .error .noScheme
  | some (scheme, rest) => readAfterScheme scheme rest

/-- The names and values of the query. -/
def queryPairs (url : Url) : List (String × String) := FormData.pairs url.query

end RowFilter.Url
