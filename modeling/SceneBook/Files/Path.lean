import SceneBook.Text.Bytes

/-!
# Paths

A path is the names between its slashes. Empty names and single dots say nothing and are dropped;
two dots are kept, since they lead out of a folder.
-/

namespace SceneBook

/-- The root is empty for a path that starts in the current folder. -/
structure Path where
  root : Text
  names : List Text
  deriving DecidableEq

namespace Path

def slash : CodePoint := '/'

def parentName : Text := ".."

def saysNothing (name : Text) : Bool := name.isEmpty || name = ("." : Text)

/-- Two leading slashes are a root of their own; three or more are the same as one. -/
def rootOf (t : Text) : Text :=
  match (t.takeWhile fun c => c = slash).length with
  | 0 => []
  | 2 => [slash, slash]
  | _ => [slash]

def ofText (t : Text) : Path :=
  ⟨rootOf t, (Text.fields slash t).filter fun n => !saysNothing n⟩

def text (p : Path) : Text :=
  if p.root.isEmpty && p.names.isEmpty then "." else p.root ++ Text.join [slash] p.names

def longestName : Nat := 255

def longestPath : Nat := 4095

def isLongName (name : Text) : Bool := longestName < name.bytes.length

def isLong (p : Path) : Bool := longestPath < p.text.bytes.length

def child (p : Path) (name : Text) : Path := ⟨p.root, p.names ++ [name]⟩

def settingsFile (p : Path) : Path := (p.child ".kram").child "config.yaml"

end Path

end SceneBook
