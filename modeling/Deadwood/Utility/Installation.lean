import Deadwood.FileTree.Change
import Deadwood.Shell.Program
import Deadwood.Utility.Edit.Run
import Deadwood.Utility.Listing
import Deadwood.Utility.Search

/-!
# The programs that come with the system

Which programs there are, and the files that a system has before anything else is written.
-/

namespace Deadwood.Utility

open Host

/-- A program that looks at its environment. -/
def withEnvironment (work : List (String × String) → List String → Tool Unit) : Program :=
  fun launch => program (work launch.environment) 1 launch

/-- The programs by name. -/
def programs : List (String × Program) :=
  [("sh", Shell.program), ("dash", Shell.program),
    ("true", program fun _ => quit 0), ("false", program fun _ => quit 1),
    ("echo", program echo), ("printf", program printf), ("yes", program yes),
    ("basename", program basename), ("dirname", program dirname), ("seq", program seq),
    ("sleep", program sleep), ("env", withEnvironment env), ("printenv", withEnvironment printenv),
    ("nohup", withEnvironment nohup), ("test", program (test false)),
    ("[", program (test true)), ("pwd", program pwd), ("id", program id),
    ("whoami", program (constant "root")),
    ("cat", program cat), ("tee", program tee), ("mkdir", program mkdir), ("rmdir", program rmdir),
    ("touch", program touch), ("rm", program rm), ("cp", program cp), ("mv", program mv),
    ("ln", program ln), ("chmod", program chmod),
    ("ls", program ls 2), ("readlink", program readlink), ("realpath", program realpath),
    ("mktemp", withEnvironment mktemp), ("stat", program stat), ("truncate", program truncate),
    ("cmp", program cmp 2), ("which", withEnvironment which),
    ("head", program head), ("tail", program tail), ("tac", program tac), ("rev", program rev),
    ("wc", program wc), ("sort", program sort 2), ("uniq", program uniq), ("cut", program cut),
    ("tr", program tr), ("nl", program nl), ("paste", program paste), ("fold", program fold),
    ("comm", program comm),
    ("grep", program (grep 'G') 2), ("egrep", program (grep 'E') 2),
    ("fgrep", program (grep 'F') 2), ("expr", program expr 3), ("sed", program Edit.sed 4)]

/-- The program of a name. -/
def programNamed? (name : String) : Option Program := programs.lookup name

end Deadwood.Utility

namespace Deadwood.FileTree

/-- The names of the devices. -/
def devices : List (String × Device) :=
  [("null", .null), ("zero", .zero), ("full", .full), ("tty", .terminal),
    ("stdin", .descriptor 0), ("stdout", .descriptor 1), ("stderr", .descriptor 2)]

/-- The directories of a system, each after those above it. -/
def systemDirectories : List String :=
  ["/dev", "/dev/fd", "/etc", "/home", "/opt", "/proc", "/root", "/run", "/srv", "/tmp", "/usr",
    "/usr/bin", "/usr/lib", "/usr/local", "/usr/local/bin", "/usr/local/sbin", "/usr/sbin", "/var",
    "/var/tmp"]

/-- The links of a system. -/
def systemLinks : List (String × String) :=
  [("/bin", "usr/bin"), ("/lib", "usr/lib"), ("/sbin", "usr/sbin")]

/-- Puts a file at a path whose directory is there. -/
def place (t : FileTree) (path : String) (content : Content) (mode : Nat) : FileTree :=
  match t.spotFrom root (.ofText path) false with
  | .ok ⟨directory, name, none⟩ => (t.create directory name content mode).1
  | _ => t

/-- Adds all files of a list. -/
def placeAll {α : Type} (t : FileTree) (items : List α) (path : α → String) (content : α → Content)
    (mode : Nat) : FileTree :=
  items.foldl (fun t item => t.place (path item) (content item) mode) t

/-- The files that a system has. -/
def installed : FileTree :=
  let t := systemDirectories.foldl (fun t path => t.makeDirectory (.ofText path)) ({} : FileTree)
  let t := t.placeAll systemLinks Prod.fst (fun l => .link (Text.Utf8.encode l.2)) 0o777
  let t := t.placeAll devices (fun d => "/dev/" ++ d.1) (fun d => .device d.2) 0o666
  let t := t.placeAll (List.range 10) (fun n => s!"/dev/fd/{n}") (fun n => .device (.descriptor n)) 0o666
  let t := t.placeAll (Utility.programs.map Prod.fst) ("/usr/bin/" ++ ·) .program 0o755
  { t with events := [] }

/-- The files that a system has, with a directory to work in. -/
def atDirectory (path : Path) : FileTree :=
  let (t, cwd) := installed.ensurePath path
  { t with cwd, events := [] }

end Deadwood.FileTree
