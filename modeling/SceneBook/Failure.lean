import SceneBook.Files.Basic
import SceneBook.Misuse
import SceneBook.Report

/-!
# Failures

A failure is a report, a fault of a file, or a misuse.
-/

namespace SceneBook

inductive Failure
  | report (r : Report)
  | file (fault : FileFault) (path : Text)
  | misuse (m : Misuse)

instance : Coe Report Failure := ⟨.report⟩

instance : Coe Misuse Failure := ⟨.misuse⟩

/-- What comes of a report: itself, once its message is written. -/
def Report.failure [Limits] (r : Report) : Failure :=
  match r.obstacle? with
  | none => .report r
  | some m => .misuse m

/-- What a fault of a text means to whoever asked for its value, who has a report for texts that
are not well formed. -/
def Yaml.Fault.failure (malformed : Report) : Yaml.Fault → Failure
  | .malformed => .report malformed
  | .tooDeep => .misuse .tooDeep
  | .literal f => .misuse (.literal f)

end SceneBook
