import SceneBook.Text.Quoted

/-!
# Files

What stands at a path, and why a path cannot be read from or written to.
-/

namespace SceneBook

/-- What a path leads to. A path is blocked when a file stands where it needs a folder, and too long
when a folder that is there cannot hold a name of it. -/
inductive Entry
  | file (content : List Char)
  | folder
  | missing
  | blocked
  | tooLong

namespace Entry

def isFile : Entry → Bool
  | .file _ => true
  | _ => false

def isFolder : Entry → Bool
  | .folder => true
  | _ => false

end Entry

inductive FileFault
  | missing
  | present
  | blocked
  | folder
  | tooLong
  deriving DecidableEq

namespace FileFault

def number : FileFault → Nat
  | .missing => 2
  | .present => 17
  | .blocked => 20
  | .folder => 21
  | .tooLong => 36

def reason : FileFault → Text
  | .missing => "No such file or directory"
  | .present => "File exists"
  | .blocked => "Not a directory"
  | .folder => "Is a directory"
  | .tooLong => "File name too long"

def message (f : FileFault) (path : Text) : Text :=
  "[Errno " ++ Text.ofNat f.number ++ "] " ++ f.reason ++ ": " ++ path.quoted

end FileFault

end SceneBook
