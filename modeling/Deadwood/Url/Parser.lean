import Deadwood.Text.Blank
import Deadwood.Url.Host
import Deadwood.Url.Segments

/-!
# Reading URLs

A URL is a scheme, a colon, and what the scheme makes of the rest: an authority with user, host and
number, then a path, then a query and a fragment. Some schemes are special: they always have a host
of the usual kind, take backslashes for slashes, and have a path that is never empty. URLs of files
have rules of their own.
-/

namespace Deadwood.Url

/-! ## Schemes -/

/-- Schemes with hosts of the usual kind, apart from files. -/
def isNetwork (scheme : List Char) : Bool :=
  ["http", "https", "ws", "wss", "ftp"].contains (String.ofList scheme)

/-- The number behind the host that need not be written. -/
def defaultService (scheme : List Char) : Option Nat :=
  match String.ofList scheme with
  | "http" => some 80
  | "ws" => some 80
  | "https" => some 443
  | "wss" => some 443
  | "ftp" => some 21
  | _ => none

/-- Whether a character can stand in a scheme after its first letter. -/
def isSchemeChar (c : Char) : Bool := c.isAlphanum || c == '+' || c == '-' || c == '.'

/-- The scheme at the front, in lower case, and what follows its colon. -/
def takeScheme? (cs : List Char) : Option (List Char × List Char) :=
  match cs with
  | c :: _ =>
    if !c.isAlpha then none
    else match cs.dropWhile isSchemeChar with
      | ':' :: rest => some ((cs.takeWhile isSchemeChar).map Char.toLower, rest)
      | _ => none
  | [] => none

/-! ## Tails -/

/-- Whether a character ends a path. -/
def endsPath (c : Char) : Bool := c == '?' || c == '#'

/-- Parts a text where a query or a fragment begins. -/
def splitTail (cs : List Char) : List Char × List Char := cs.span (!endsPath ·)

/-- The query and the fragment, encoded. -/
def parseTail (special : Bool) (cs : List Char) : List Char :=
  match cs with
  | '?' :: rest =>
    let (query, fragment) := rest.span (· != '#')
    '?' :: encode (plainInQuery special) query ++
      (match fragment with
        | '#' :: fragment => '#' :: encode plainInFragment fragment
        | _ => [])
  | '#' :: fragment => '#' :: encode plainInFragment fragment
  | _ => []

/-! ## Authorities -/

/-- Whether a character ends an authority. -/
def endsAuthority (special : Bool) (c : Char) : Bool := isSlash special c || endsPath c

/-- Parts a text at the last place where a character stands. -/
def splitLast (c : Char) (cs : List Char) : Option (List Char × List Char) :=
  let after := cs.reverse.takeWhile (· != c)
  if after.length == cs.length then none
  else some (cs.take (cs.length - after.length - 1), after.reverse)

/-- The text of user and password, with the sign that ends it. A password that is empty is left
out, and so is all of it if there is nothing. -/
def userText (cs : List Char) : List Char :=
  let (user, password) := cs.span (· != ':')
  let text := encode plainInUser user ++ (match password with
    | _ :: c :: rest => ':' :: encode plainInUser (c :: rest)
    | _ => [])
  if text.isEmpty then [] else text ++ ['@']

/-- User and password at the front, as they are written, and what follows them. A URL that names
nobody before the sign has to name a host behind it. -/
def takeUser? (special : Bool) (cs : List Char) : Option (List Char × List Char) :=
  let (authority, rest) := cs.span (!endsAuthority special ·)
  match splitLast '@' authority with
  | none => some ([], cs)
  | some (user, host) =>
    if user.isEmpty && host.isEmpty && !rest.isEmpty then none
    else some (userText user, host ++ rest)

/-- The host at the front, up to a colon outside brackets or the end of the authority, and what
follows it. -/
def takeHost (special : Bool) (bracket : Bool) : List Char → List Char × List Char
  | [] => ([], [])
  | c :: cs =>
    if (c == ':' && !bracket) || endsAuthority special c then ([], c :: cs)
    else
      let (host, rest) := takeHost special (c == '[' || (bracket && c != ']')) cs
      (c :: host, rest)

/-- The number behind a host, as it is written, and what follows it. It is left out if it is the
default one. -/
def takeService? (scheme cs : List Char) : Option (List Char × List Char) :=
  match cs with
  | ':' :: cs =>
    let (digits, rest) := cs.span Char.isDigit
    let n := Text.ofDecimal digits
    if n > 65535 || !rest.head?.all (endsAuthority true) then none
    else if digits.isEmpty || defaultService scheme == some n then some ([], rest)
    else some (':' :: Nat.toDigits 10 n, rest)
  | _ => some ([], cs)

/-- The path behind an authority. In special URLs a slash is always there; in others a path that is
not empty is one behind a slash. -/
def pathAfter (special : Bool) (cs : List Char) : UrlPath :=
  match cs with
  | [] => if special then .segments [[]] else .rootless []
  | c :: rest => .segments (segments special false (if isSlash special c then rest else cs))

/-- A URL from its authority and what follows it. A host has to be named behind a user, before a
number, and in special URLs. -/
def parseAuthority? (scheme cs : List Char) : Option Url := do
  let special := isNetwork scheme
  let (user, rest) ← takeUser? special cs
  let (hostText, rest) := takeHost special false rest
  let host ← if special then usualHost? hostText else freeHost? hostText
  let (service, after) ← takeService? scheme rest
  if host.isEmpty && (!user.isEmpty || rest.head? == some ':') then none
  let (path, tail) := splitTail after
  some { scheme, user := some user, host, service, path := pathAfter special path,
         tail := parseTail special tail }

/-! ## Whole URLs -/

/-- The host at the front of a URL of a file, and what follows it. A drive is no host, and the local
host is left out. -/
def takeFileHost? (cs : List Char) : Option (List Char × List Char) :=
  let (text, rest) := cs.span (!isSlash true ·)
  if isDriveLetter text then some ([], cs)
  else if text.isEmpty then some ([], rest)
  else (usualHost? text).map fun host => (if host == "localhost".toList then [] else host, rest)

/-- The segments of the path of a file that starts with its first segment. A drive that a dropped
character follows is a segment of its own; `gaps` are the lengths of what follows dropped ones. -/
def firstSegments (gaps : List Nat) (cs : List Char) : List (List Char) :=
  if hasDriveInSegment cs && gaps.contains (cs.length - 2) then cutSegments cs else fileSegments cs

/-- The host and the segments of a URL of a file, from what stands between its scheme and its tail.
A host is left out if the path starts with a drive. -/
def filePlace? (gaps : List Nat) (cs : List Char) : Option (List Char × List (List Char)) :=
  match cs with
  | a :: b :: rest =>
    if isSlash true a && isSlash true b then
      (takeFileHost? rest).map fun (host, rest) =>
        if host.isEmpty then ([], fileSegments rest)
        else (if startsWithDrive (rest.drop 1) then [] else host, firstSegments gaps (rest.drop 1))
    else some ([], firstSegments gaps (if isSlash true a then b :: rest else cs))
  | [a] => some ([], fileSegments (if isSlash true a then [] else cs))
  | [] => some ([], fileSegments [])

/-- A URL of a file, from what follows its scheme and the lengths of what follows characters that
were dropped there. -/
def parseFile? (gaps : List Nat) (cs : List Char) : Option Url :=
  let (place, tail) := splitTail cs
  let gaps := (gaps.filter (tail.length ≤ ·)).map (· - tail.length)
  (filePlace? gaps place).map fun (host, ss) =>
    { scheme := "file".toList, user := some [], host, path := .segments ss,
      tail := parseTail true tail }

/-- A URL without an authority, from what follows its scheme. -/
def parsePlain (scheme cs : List Char) : Url :=
  let (path, tail) := splitTail cs
  { scheme
    path := match path with
      | '/' :: rest => .segments (segments false false rest)
      | _ => .rootless (encode plainRootless path)
    tail := parseTail false tail }

/-- A URL from its scheme and what follows it, with the lengths of what follows characters that were
dropped. -/
def parseAfter? (gaps : List Nat) (scheme cs : List Char) : Option Url :=
  if scheme == "file".toList then parseFile? gaps cs
  else if isNetwork scheme then parseAuthority? scheme (cs.dropWhile (isSlash true))
  else match cs with
    | '/' :: '/' :: rest => parseAuthority? scheme rest
    | _ => some (parsePlain scheme cs)

/-- Whether a character is dropped wherever it stands. -/
def isDropped (c : Char) : Bool := c == '\t' || c == '\n' || c == '\r'

/-- How many characters are left behind each character that is dropped. -/
def gapsOf : List Char → List Nat
  | [] => []
  | c :: rest =>
    if isDropped c then (rest.filter (!isDropped ·)).length :: gapsOf rest else gapsOf rest

/-- The URL that a text spells, if it spells an absolute one. -/
def parse? (s : String) : Option Url :=
  let cs := Text.trimList (fun c => c.toNat ≤ 0x20) s.toList
  (takeScheme? (cs.filter (!isDropped ·))).bind fun (scheme, rest) =>
    parseAfter? (gapsOf cs) scheme rest

end Deadwood.Url
