import Deadwood.Text.Utf8

/-!
# Paths

A path is a row of bytes, kept as it was spelled; it need not be text. What it means is the list of
its components: repeated slashes, slashes at the end and dots that are not at the front carry no
meaning, two dots are never resolved. Paths are compared and ordered by their components.
-/

namespace Deadwood

/-- A path as it was spelled. -/
structure Path where
  bytes : List UInt8
deriving DecidableEq, Repr, Inhabited

namespace Path

/-- The path that a text spells. -/
def ofText (s : String) : Path := ⟨Text.Utf8.encode s⟩

/-- A path as it is shown: bytes that are no text are replaced. -/
def text (p : Path) : String := Text.Utf8.decodeLossy p.bytes

/-- The byte between the segments of a path. -/
def slash : UInt8 := 47

/-- The byte that, alone or twice, makes a segment with a meaning of its own. -/
def dot : UInt8 := 46

/-! ## Segments -/

/-- Cuts bytes at every slash; there is always at least one piece. -/
def splitSlashes : List UInt8 → List (List UInt8)
  | [] => [[]]
  | b :: bs =>
    if b == slash then [] :: splitSlashes bs
    else match splitSlashes bs with
      | [] => [[b]]
      | s :: rest => (b :: s) :: rest

/-- Puts pieces back together with slashes between them. -/
def joinSlashes : List (List UInt8) → List UInt8
  | [] => []
  | [s] => s
  | s :: t :: rest => s ++ slash :: joinSlashes (t :: rest)

/-- Where a path starts: at the root, at an explicit dot, or at no place it names itself. -/
inductive Anchor where
  | root
  | here
  | none
deriving DecidableEq, Repr, Inhabited

/-- The start of a path and the segments after it. -/
def parse (p : Path) : Anchor × List (List UInt8) :=
  match splitSlashes p.bytes with
  | [] :: s :: rest => (.root, s :: rest)
  | [b] :: rest => if b == dot then (.here, rest) else (.none, [b] :: rest)
  | segments => (.none, segments)

/-- The start of a path. -/
def anchor (p : Path) : Anchor := p.parse.1

/-- The segments of a path after its start. -/
def body (p : Path) : List (List UInt8) := p.parse.2

/-- Whether a segment carries no meaning inside a path: it is empty or a dot. -/
def isIdle (segment : List UInt8) : Bool := segment == [] || segment == [dot]

/-! ## Components -/

/-- One step of a path. -/
inductive Component where
  | root
  | here
  | up
  | name (s : List UInt8)
deriving DecidableEq, Repr, Inhabited

namespace Component

/-- The place of a kind of component in the order of kinds. -/
def rank : Component → Nat
  | .root => 0
  | .here => 1
  | .up => 2
  | .name _ => 3

/-- The name in a component, empty if it is not a name. -/
def label : Component → List UInt8
  | .name s => s
  | _ => []

instance : Ord Component :=
  ⟨fun a b => (compare a.rank b.rank).then (compare a.label b.label)⟩

/-- The component that a segment stands for, if it is not idle. -/
def ofSegment? (segment : List UInt8) : Option Component :=
  if isIdle segment then none
  else if segment == [dot, dot] then some .up
  else some (.name segment)

/-- How a component is spelled. -/
def bytes : Component → List UInt8
  | .root => [slash]
  | .here => [dot]
  | .up => [dot, dot]
  | .name s => s

end Component

/-- The components that the start of a path stands for. -/
def Anchor.components : Anchor → List Component
  | .root => [.root]
  | .here => [.here]
  | .none => []

/-- The components of a path. -/
def components (p : Path) : List Component :=
  p.anchor.components ++ p.body.filterMap Component.ofSegment?

/-- Whether two paths have the same components. -/
def same (p q : Path) : Bool := p.components == q.components

/-- The order of paths: component by component, a path before those it is a beginning of. -/
instance : Ord Path := ⟨fun p q => compare p.components q.components⟩

/-- Whether a path starts at the root. -/
def isAbsolute (p : Path) : Bool := p.anchor == .root

/-- The name at the end of a path, if it ends in one. -/
def fileName? (p : Path) : Option (List UInt8) :=
  match p.components.getLast? with
  | some (.name s) => some s
  | _ => none

/-! ## Joining -/

/-- A path below another: an absolute one replaces it, else a slash is put between them unless the
left one is empty or ends in a slash. -/
def join (p q : Path) : Path :=
  if q.isAbsolute then q
  else if p.bytes.isEmpty || p.bytes.getLast? == some slash then ⟨p.bytes ++ q.bytes⟩
  else ⟨p.bytes ++ slash :: q.bytes⟩

/-! ## Taking a beginning off -/

/-- Drops a number of components from segments, with the idle segments before each. -/
def dropComponents : Nat → List (List UInt8) → List (List UInt8)
  | 0, segments => segments
  | n + 1, segments => match segments.dropWhile isIdle with
    | [] => []
    | _ :: rest => dropComponents n rest

/-- Drops the idle segments at the end. -/
def trimEnd (segments : List (List UInt8)) : List (List UInt8) :=
  (segments.reverse.dropWhile isIdle).reverse

/-- How a start followed by segments is spelled. -/
def Anchor.write : Anchor → List (List UInt8) → List UInt8
  | .root, segments => slash :: joinSlashes segments
  | .here, [] => [dot]
  | .here, segments => dot :: slash :: joinSlashes segments
  | .none, segments => joinSlashes segments

/-- The path without idle segments at its end. -/
def withoutIdleEnd (p : Path) : Path :=
  ⟨p.anchor.write (trimEnd p.body)⟩

/-- What is left of a path after its first components, as it was spelled but without idle segments
at either end. -/
def afterComponents (p : Path) (count : Nat) : Path :=
  let rest := match p.anchor with
    | .none => dropComponents count p.body
    | _ => dropComponents (count - 1) p.body
  ⟨joinSlashes (trimEnd (rest.dropWhile isIdle))⟩

/-- What is left of a path below a base, if the components of the base are its first ones. -/
def stripBase? (base p : Path) : Option Path :=
  let count := base.components.length
  if base.components.isPrefixOf p.components then
    if count == 0 then some p.withoutIdleEnd else some (p.afterComponents count)
  else none

/-! ## Absolute paths -/

/-- The path from the root: a relative one starts at the current directory. Idle segments are
dropped, two dots stay, a slash at the end stays, and so do exactly two slashes at the front. The
empty path leads nowhere and stays empty. -/
def absolute (cwd p : Path) : Path :=
  if p.bytes.isEmpty then p else
  let names := (p.components.filter fun c => c != .root && c != .here).map Component.bytes
  let isDouble := p.bytes.take 2 == [slash, slash] && p.bytes.take 3 != [slash, slash, slash]
  let start : Path :=
    if !p.isAbsolute then cwd else if isDouble then ⟨[slash, slash]⟩ else ⟨[slash]⟩
  let full := names.foldl (fun q name => q.join ⟨name⟩) start
  if p.bytes.getLast? == some slash then full.join ⟨[]⟩ else full

end Path

end Deadwood
