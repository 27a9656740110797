import SceneBook.Failure
import SceneBook.Workbook.Document
import SceneBook.Yaml.Document

/-!
# Workbook files

Reading a workbook from a file, whose text is YAML and so may be JSON.
-/

namespace SceneBook

def Yaml.Fault.detail : Text := "<yaml>"

namespace Workbook

def malformed (path : Text) : Report :=
  .workbook ("Malformed workbook " ++ path ++ ": " ++ Yaml.Fault.detail)
    [(.text "path", .text path)]

def ofFile (path : Text) (content : List Char) : Except Failure Workbook :=
  match Yaml.read content with
  | .error f => .error (f.failure (malformed path))
  | .ok v => (ofFileValue v).mapError fun f => .report f.report

def load (path : Text) (entry : Entry) : Except Failure Workbook :=
  if path.contains (.scalar '\x00') then .error (.misuse .nullCharacter)
  else match entry with
  | .file content => ofFile path content
  | .folder => .error (.file .folder path)
  | .missing => .error (.file .missing path)
  | .blocked => .error (.file .blocked path)
  | .tooLong => .error (.file .tooLong path)

end Workbook

end SceneBook
