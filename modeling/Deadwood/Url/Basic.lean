/-!
# URLs

Absolute URLs in their normal form: the scheme and the host in lower case, dots in the path
resolved, and what may not stand for itself percent encoded. Two spellings with one normal form
are one URL.
-/

namespace Deadwood

/-- The path of a URL: a list of segments after a slash each, or a text that starts with none. -/
inductive UrlPath where
  | segments (ss : List (List Char))
  | rootless (text : List Char)
deriving DecidableEq, Repr, Inhabited

/-- An absolute URL in normal form. -/
structure Url where
  scheme : List Char
  /-- The user before the host, with the sign that ends it, if the URL has an authority at all. -/
  user : Option (List Char) := none
  host : List Char := []
  /-- The number behind the host, with the sign before it. -/
  service : List Char := []
  path : UrlPath
  /-- The query and the fragment with the signs before them. -/
  tail : List Char := []
deriving DecidableEq, Repr, Inhabited

namespace Url

/-- The text of a path. -/
def pathText : UrlPath → List Char
  | .segments ss => ss.flatMap fun s => '/' :: s
  | .rootless text => text

/-- The text of the authority, or what keeps a path that starts with two slashes from being taken
for one. -/
def authorityText (u : Url) : List Char :=
  match u.user, u.path with
  | some user, _ => '/' :: '/' :: user ++ u.host ++ u.service
  | none, .segments ([] :: _ :: _) => ['/', '.']
  | none, _ => []

/-- The text of a URL. -/
def toText (u : Url) : String :=
  String.ofList (u.scheme ++ ':' :: u.authorityText ++ pathText u.path ++ u.tail)

end Url

end Deadwood
