import Deadwood.Path.Basic
import Deadwood.Url.Segments

/-!
# URLs and file paths

The path of the file that a URL names, and the URL of a file.
-/

namespace Deadwood

namespace Url

/-- Whether the bytes end in a letter and a colon or a bar. -/
def endsInDriveLetter (bytes : List UInt8) : Bool :=
  let last := bytes.drop (bytes.length - 2)
  2 < bytes.length && isDriveLetter (last.map fun b => Char.ofNat b.toNat)

/-- The file that a URL names: its decoded segments, if it has segments and no host but the local
one. A drive letter at the end gets a slash. Formalises `uri_to_path`. -/
def toPath? (u : Url) : Option Path :=
  if !(u.host.isEmpty || u.host == "localhost".toList) then none
  else match u.path with
    | .rootless _ => none
    | .segments ss =>
      let bytes := ss.flatMap fun s => 47 :: decode (Text.Utf8.encodeList s)
      some ⟨if endsInDriveLetter bytes then bytes ++ [47] else bytes⟩

/-- The URL of an absolute path, component by component; two dots stay. -/
def ofPath? (p : Path) : Option Url :=
  if !p.isAbsolute then none
  else
    let names := (p.components.drop 1).map fun c => encodeBytes plainInName c.bytes
    some { scheme := "file".toList, user := some [],
           path := .segments (if names.isEmpty then [[]] else names) }

end Url

/-- Under which URL findings of a file are published; relative files are below the root. Formalises
`publish_uri`. -/
def Path.publishUrl? (root file : Path) : Option Url := Url.ofPath? (root.join file)

/-- The paths under which a report may name a file: as it is, and below the root. Formalises
`report_keys`. -/
def Path.reportKeys (root path : Path) : List Path :=
  path :: (Path.stripBase? root path).toList

end Deadwood
