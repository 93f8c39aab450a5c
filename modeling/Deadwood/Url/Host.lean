import Deadwood.Url.Address
import Deadwood.Url.Label
import Deadwood.Url.Percent

/-!
# Hosts

The host of a URL in its normal form. Where the scheme has hosts of the usual kind, they are names,
which are folded and written in ASCII, or addresses; other schemes may name hosts as they like.
-/

namespace Deadwood.Url

/-- A name in ASCII. If a label is written from right to left, all labels have to fit that. -/
def domain? (cs : List Char) : Option (List Char) :=
  match (foldText? cs).bind fun cs => (Text.splitAt '.' cs).mapM Label.ofList? with
  | none => none
  | some labels =>
    let mixed := labels.any fun l => Label.hasRightToLeft l.shown
    if mixed && !labels.all (fun l => Label.directionsFit l.shown) then none
    else some (['.'].intercalate (labels.map (·.ascii)))

/-- The address between brackets. -/
def bracketed? (cs : List Char) : Option (List Char) :=
  if cs.getLast? == some ']' then (Address.long? ((cs.drop 1).dropLast)).map Address.longText
  else none

/-- A host of the usual kind: an address, or a name, which is percent decoded first and may not be
empty. -/
def usualHost? (cs : List Char) : Option (List Char) :=
  if cs.head? == some '[' then bracketed? cs
  else
    match (Text.Utf8.decode? (decode (Text.Utf8.encodeList cs))).bind fun s => domain? s.toList with
    | none => none
    | some name =>
      if name.isEmpty then none
      else if Address.endsInNumber name then (Address.short? name).map Address.shortText
      else some name

/-- Whether a character parts a URL, so that it cannot stand in a host. -/
def isHostBreak (c : Char) : Bool :=
  ['\x00', '\t', '\n', '\r', ' ', '#', '/', ':', '<', '>', '?', '@', '[', '\\', ']', '^',
    '|'].contains c

/-- A host of another kind: an address in brackets, or any text, which is percent encoded. -/
def freeHost? (cs : List Char) : Option (List Char) :=
  if cs.head? == some '[' then bracketed? cs
  else if cs.any isHostBreak then none
  else some (encode plainRootless cs)

end Deadwood.Url
