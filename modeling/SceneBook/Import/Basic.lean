import SceneBook.Text.CodePoint

/-!
# Imports of the generated module

An import names a module, the binding of its default and the names it exposes. Each import is
one line of the generated module.
-/

namespace SceneBook

inductive Exposure
  | nothing
  | everything
  | names (ns : List Text)
  deriving DecidableEq

structure ImportSpec where
  source : Text
  localName : Option Text
  expose : Exposure
  deriving DecidableEq

namespace Exposure

def namesText (ns : List Text) : Text := "\x7b " ++ Text.join ", " ns ++ " \x7d"

def bindings? : Exposure → Option Text
  | .nothing => none
  | .everything => some "*"
  | .names ns => some (namesText ns)

end Exposure

/-- The line that imports a default, other bindings, or nothing from a source. -/
def importLine (source : Text) (default? bindings? : Option Text) : Text :=
  let from' : Text := "'" ++ source ++ "'"
  match bindings?, default? with
  | some b, some d => "import " ++ d ++ ", " ++ b ++ " from " ++ from'
  | some b, none => "import " ++ b ++ " from " ++ from'
  | none, some d => "import " ++ d ++ " from " ++ from'
  | none, none => "import " ++ from'

namespace ImportSpec

def isNamespace (s : ImportSpec) : Bool := s.expose = .everything

/-- Nothing is bound: the module is loaded for its effects. -/
def isBare (s : ImportSpec) : Bool := s.localName.isNone && s.expose = .nothing

/-- The default binding; an empty one counts as none. -/
def default? (s : ImportSpec) : Option Text := s.localName.filter fun a => !a.isEmpty

def line (s : ImportSpec) : Text := importLine s.source s.default? s.expose.bindings?

end ImportSpec

end SceneBook
