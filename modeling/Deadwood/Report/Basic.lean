import Deadwood.Path.Basic

/-!
# Reports

What an analyzer found in one pass over a workspace: every function definition with the number of
its uses, and every piece of code that is commented out. Lines count from one.
-/

namespace Deadwood

/-- A place where a function is used. Formalises `UsageSite`. -/
structure UsageSite where
  file : Path
  line : UInt32
deriving DecidableEq, Repr, Inhabited

/-- A function definition and how often it is used. Formalises `FunctionRecord`. -/
structure FunctionRecord where
  name : String
  file : Path
  line : UInt32
  usageCount : UInt32
  lastUsed : Option UsageSite := none
deriving DecidableEq, Repr, Inhabited

/-- A piece of code that is commented out. Formalises `CommentRecord`. -/
structure CommentRecord where
  file : Path
  line : UInt32
  content : String := ""
deriving DecidableEq, Repr, Inhabited

/-- The result of one pass over a workspace. Formalises `AnalysisReport`. -/
structure Report where
  functions : List FunctionRecord := []
  comments : List CommentRecord := []
deriving DecidableEq, Repr, Inhabited

/-- Whether a function is never used. Formalises `is_unused`. -/
def FunctionRecord.isUnused (f : FunctionRecord) : Bool := f.usageCount == 0

namespace Report

/-- The report of a workspace without findings. -/
def empty : Report := {}

/-- The functions that are never used, in report order. Formalises `unused_functions`. -/
def unused (r : Report) : List FunctionRecord := r.functions.filter (·.isUnused)

/-- The functions of one file that are never used, in report order. Formalises
`unused_functions_in`. -/
def unusedIn (r : Report) (file : Path) : List FunctionRecord :=
  r.unused.filter (·.file.same file)

/-- Whether the report names nothing at all. -/
def isEmpty (r : Report) : Bool := r.functions.isEmpty && r.comments.isEmpty

end Report

end Deadwood
