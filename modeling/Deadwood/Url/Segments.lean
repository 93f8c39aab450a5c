import Deadwood.Url.Basic
import Deadwood.Url.Percent

/-!
# Paths of URLs

A path is cut into segments at slashes, and segments of one or two dots are resolved. A segment that
names a drive is never left out, and in URLs of files a drive at the start has a normal spelling.
-/

namespace Deadwood.Url

/-! ## Segments -/

/-- Whether a character ends a segment. -/
def isSlash (special : Bool) (c : Char) : Bool := c == '/' || (special && c == '\\')

/-- Cuts a text at every character that ends a segment. -/
def splitSegments (special : Bool) : List Char → List (List Char)
  | [] => [[]]
  | c :: cs =>
    if isSlash special c then [] :: splitSegments special cs
    else match splitSegments special cs with
      | [] => [[c]]
      | s :: rest => (c :: s) :: rest

/-- Reads encoded dots as dots, so that dot segments are known in every spelling. -/
def decodeDots : List Char → List Char
  | '%' :: '2' :: 'e' :: rest => '.' :: decodeDots rest
  | '%' :: '2' :: 'E' :: rest => '.' :: decodeDots rest
  | c :: rest => c :: decodeDots rest
  | [] => []

/-- Whether a segment names the place it stands in. -/
def isSingleDot (s : List Char) : Bool := decodeDots s == ['.']

/-- Whether a segment names the place above. -/
def isDoubleDot (s : List Char) : Bool := decodeDots s == ['.', '.']

/-- Whether a segment is a letter with a colon or a bar, as the names of drives are. -/
def isDriveLetter : List Char → Bool
  | [c, m] => c.isAlpha && (m == ':' || m == '|')
  | _ => false

/-- The normal spelling of a segment that starts the path of a file: drives have a colon. -/
def normalDrive (s : List Char) : List Char := if isDriveLetter s then s.take 1 ++ [':'] else s

/-! ## Dots -/

/-- Whether a segment is not left out for dots behind it: it names a drive, perhaps with a backslash
and more behind it. -/
def outlastsDots (s : List Char) : Bool :=
  isDriveLetter (s.take 2) && (s.drop 2).head?.all (· == '\\')

/-- Leaves the last segment out, unless it names a drive; segments are kept in reverse. -/
def dropLastSegment : List (List Char) → List (List Char)
  | s :: rest => if outlastsDots s then s :: rest else rest
  | [] => []

/-- Adds a segment to others, which are kept in reverse. -/
def addSegment (file : Bool) (done : List (List Char)) (s : List Char) : List (List Char) :=
  (if file && done.isEmpty then normalDrive s else s) :: done

/-- Resolves dot segments after segments already resolved, which are kept in reverse. A dot segment
at the end leaves an empty segment. -/
def resolveDots (file : Bool) (done : List (List Char)) : List (List Char) → List (List Char)
  | [] => done.reverse
  | [s] =>
    if isDoubleDot s then ([] :: dropLastSegment done).reverse
    else if isSingleDot s then ([] :: done).reverse
    else (addSegment file done s).reverse
  | s :: t :: rest =>
    if isDoubleDot s then resolveDots file (dropLastSegment done) (t :: rest)
    else if isSingleDot s then resolveDots file done (t :: rest)
    else resolveDots file (addSegment file done s) (t :: rest)

/-- The segments in a text that starts behind the first slash. -/
def segments (special file : Bool) (cs : List Char) : List (List Char) :=
  resolveDots file [] ((splitSegments special cs).map (encode plainInPath))

/-! ## Paths of files -/

/-- Segments without empty ones at the front; at least one segment is left. -/
def dropEmptySegments : List (List Char) → List (List Char)
  | [] :: s :: rest => dropEmptySegments (s :: rest)
  | ss => ss

/-- The segments of the path of a file, in a text that starts behind the first slash. -/
def fileSegments (cs : List Char) : List (List Char) := dropEmptySegments (segments true true cs)

/-- Whether a text starts with a drive, written with a colon, and more of the same segment. -/
def hasDriveInSegment (cs : List Char) : Bool :=
  isDriveLetter (cs.take 2) && cs[1]? == some ':' && (cs.drop 2).head?.any (!isSlash true ·)

/-- The segments of the path of a file whose first segment is cut behind its drive; what stands
behind the cut is never taken for dots. -/
def cutSegments (cs : List Char) : List (List Char) :=
  match (splitSegments true (cs.drop 2)).map (encode plainInPath) with
  | s :: t :: rest => resolveDots true [s, cs.take 2] (t :: rest)
  | ss => cs.take 2 :: ss

/-- Whether a drive is named where the path of a file starts, so that no host is meant. The drive is
known by its place among the segments before empty ones are left out. -/
def startsWithDrive (cs : List Char) : Bool := (segments true true cs).head?.any isDriveLetter

end Deadwood.Url
