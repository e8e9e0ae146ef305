import AdoptionRecords.Connection.Domain
import AdoptionRecords.Settings

/-! Addresses of stores. An address is a URL of any scheme: a scheme, then perhaps an authority
with a user, a host and a port, a path and a query. It is refused when a part is not well formed
or when the query sets an option that is known to a value that the option does not have.
-/

namespace AdoptionRecords.Connection

open Text

/-- The address of the store when nobody says. -/
def standardAddress : String :=
  "postgres://localhost/furever"

/-- Blanks and control characters are dropped from the ends of an address. -/
def isEdge (c : Char) : Bool :=
  c.toNat ≤ 0x20

/-- An address without what is dropped from it: blanks at its ends, and tabs and line ends. -/
def stripped (cs : List Char) : List Char :=
  let cs := ((cs.dropWhile isEdge).reverse.dropWhile isEdge).reverse
  cs.filter fun c => !(c == '\t' || c == '\n' || c == '\r')

/-- The characters of a scheme after its first letter. -/
def isSchemeChar (c : Char) : Bool :=
  c.isAlphanum || c == '+' || c == '-' || c == '.'

/-- A scheme in lower case, and what follows its colon. -/
def scheme? (cs : List Char) : Option (List Char × List Char) :=
  let name := cs.takeWhile isSchemeChar
  match name, cs.drop name.length with
  | first :: _, ':' :: rest => if first.isAlpha then some (name.map Char.toLower, rest) else none
  | _, _ => none

/-- What an address leads to: a host of the web, a file, or whatever its scheme means. -/
inductive Family
  | web
  | file
  | other
  deriving DecidableEq, Repr

namespace Family

/-- The family of a scheme. -/
def ofScheme (scheme : List Char) : Family :=
  let scheme := String.ofList scheme
  if ["http", "https", "ws", "wss", "ftp"].contains scheme then web
  else if scheme = "file" then file
  else other

/-- Whether a character divides the path of an address. -/
def isSlash (f : Family) (c : Char) : Bool :=
  c == '/' || (c == '\\' && f ≠ other)

/-- Whether a character ends the authority of an address. -/
def endsAuthority (f : Family) (c : Char) : Bool :=
  f.isSlash c || c == '?' || c == '#'

end Family

/-- The characters that no host has whose scheme is not known. -/
def isHostForbidden (c : Char) : Bool :=
  "\x00\t\n\r #/:<>?@[\\]^|".toList.contains c

/-- A port is empty or a number of 16 bits. -/
def isPort (cs : List Char) : Bool :=
  cs = [] ||
    match Decimal.readDigits? cs with
    | some n => n < 65536
    | none => false

/-- Splits a text before its first colon that is not inside brackets. -/
def splitColon (inside : Bool) : List Char → List Char × List Char
  | [] => ([], [])
  | c :: rest =>
      if c = ':' ∧ !inside then ([], c :: rest)
      else
        let (before, after) := splitColon (c = '[' ∨ inside ∧ c ≠ ']') rest
        (c :: before, after)

/-- Whether a host is well formed. One whose scheme is not known is read no further, unless it
stands for the path of a socket.
-/
def isHost (f : Family) (cs : List Char) : Bool :=
  match cs with
  | '[' :: inner => inner.getLast? = some ']' && isVersion6 inner.dropLast
  | _ =>
      match f with
      | .other =>
          !cs.any isHostForbidden && ((percentBytes cs).head? ≠ some '/'.toUInt8 || isText cs)
      | _ => isDomain cs

/-- Splits an authority after its last at sign; without one there is no user. -/
def splitUser (cs : List Char) : Option (List Char) × List Char :=
  let host := (cs.reverse.takeWhile (· ≠ '@')).reverse
  let user := cs.take (cs.length - host.length)
  (if user = [] then none else some user.dropLast, host)

/-- Whether a segment of a path names a drive, from which nothing leads up. -/
def isDrive : List Char → Bool
  | a :: b :: rest => a.isAlpha && (b == ':' || b == '|') && (rest = [] || rest.head? = some '\\')
  | _ => false

/-- A segment of a path with its points as such. -/
def readPoints : List Char → List Char
  | '%' :: '2' :: 'e' :: rest | '%' :: '2' :: 'E' :: rest => '.' :: readPoints rest
  | c :: rest => c :: readPoints rest
  | [] => []

/-- Follows the segments of a path, where one point leads nowhere and two points lead up. What has
been passed is kept with the last segment first.
-/
def follow (passed : List (List Char)) : List (List Char) → List (List Char)
  | [] => passed.reverse
  | segment :: rest =>
      match readPoints segment, passed with
      | ['.', '.'], last :: before => follow (if isDrive last then passed else before) rest
      | ['.', '.'], [] | ['.'], _ => follow passed rest
      | _, _ => follow (segment :: passed) rest

/-- Whether a path stands for a text where it leads to. One without a root leads nowhere else. -/
def isPath (f : Family) (rooted : Bool) (path : List Char) : Bool :=
  if rooted then
    let path := path.map fun c => if f.isSlash c then '/' else c
    (follow [] ((if path.head? = some '/' then path.tail else path).splitOn '/')).all isText
  else isText path

/-- The ways to encrypt a connection. -/
def encryptionModes : List String :=
  ["disable", "allow", "prefer", "require", "verify-ca", "verify-full"]

/-- Whether an option of a query has a value that it may have. -/
def isOption (name value : String) : Bool :=
  if name = "sslmode" || name = "ssl-mode" then encryptionModes.contains value.toLower
  else if name = "port" then (Decimal.readUnsigned? 65535 value.toList).isSome
  else if name = "statement-cache-capacity" then
    (Decimal.readUnsigned? Decimal.maxUnsigned64 value.toList).isSome
  else if name = "hostaddr" then isQuad value.toList || isVersion6 value.toList
  else true

/-- An option of a query, its name and value as they are read: a plus sign stands for a space. -/
def readOption (cs : List Char) : String × String :=
  let decode (cs : List Char) :=
    (percentDecoded? (cs.map fun c => if c = '+' then ' ' else c)).getD ""
  let name := cs.takeWhile (· ≠ '=')
  (decode name, decode (cs.drop (name.length + 1)))

/-- Whether all options of a query have values that they may have. -/
def isQuery (cs : List Char) : Bool :=
  (cs.splitOn '&').all fun part =>
    let (name, value) := readOption part
    isOption name value

/-- Whether a path and the query after it are well formed. -/
def isRest (f : Family) (rooted : Bool) (cs : List Char) : Bool :=
  let path := cs.takeWhile fun c => c != '?' && c != '#'
  -- The query goes up to the fragment.
  let query := (cs.drop path.length).takeWhile (· ≠ '#')
  isPath f rooted path && isQuery (query.drop 1)

/-- Whether an authority and what follows it are well formed. A host may be empty if its scheme is
not known and it has neither a user nor a port; a user without a name or a password is none. An at
sign must not stand alone in front of a path or a query.
-/
def isAuthority (f : Family) (cs : List Char) : Bool :=
  let authority := cs.takeWhile (!f.endsAuthority ·)
  let rest := cs.drop authority.length
  let (user, place) := splitUser authority
  let (host, port) := splitColon false place
  -- A port also ends at a backslash, with which a path begins then.
  let digits := (port.drop 1).takeWhile (· ≠ '\\')
  let name := user.getD []
  isText name && !(user = some [] && place = [] && rest ≠ []) &&
    (if host = [] then f = .other && port = [] && (name = [] || name = [':']) else isHost f host) &&
    isPort digits && isRest f true (port.drop (digits.length + 1) ++ rest)

/-- Whether a file and its host, which may be missing, are well formed. A drive is no host. -/
def isFile (cs : List Char) : Bool :=
  if 2 ≤ cs.length ∧ (cs.take 2).all Family.file.isSlash then
    let rest := cs.drop 2
    let host := rest.takeWhile (!Family.file.endsAuthority ·)
    if host = [] ∨ isDrive host ∧ host.length = 2 then isRest .file true rest
    else isHost .file host && isRest .file true (rest.drop host.length)
  else isRest .file true cs

/-- Whether an address is one that a connection can be made to. -/
def accepts (address : String) : Bool :=
  match scheme? (stripped address.toList) with
  | none => false
  | some (scheme, rest) =>
      match Family.ofScheme scheme with
      -- A host of the web may follow any number of slashes.
      | .web => isAuthority .web (rest.dropWhile Family.web.isSlash)
      | .file => isFile rest
      | .other =>
          if rest.take 2 = ['/', '/'] then isAuthority .other (rest.drop 2)
          else isRest .other (rest.head? = some '/') rest

end AdoptionRecords.Connection
