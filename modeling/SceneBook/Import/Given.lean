import SceneBook.Import.Reading

/-!
# Imports of a workbook

A workbook keeps its imports as they were given: as values of a document, which are checked when
their lines are asked for, or as imports that a host has built, which are never checked.
-/

namespace SceneBook

/-- An import of any source, default and exposure. -/
structure BuiltImport where
  source : Value
  localName : Value
  expose : Value

inductive Import
  | given (v : Value)
  | built (i : BuiltImport)

namespace BuiltImport

def ofSpec (s : ImportSpec) : BuiltImport where
  source := .text s.source
  localName := (s.localName.map Value.text).getD .null
  expose := match s.expose with
    | .nothing => .null
    | .everything => .text "*"
    | .names ns => .tuple (ns.map Value.text)

def isNamespace (i : BuiltImport) : Bool := i.expose.text? = some "*"

def isBare (i : BuiltImport) : Bool := i.localName.isNull && i.expose.isNull

def names (i : BuiltImport) : Except Misuse (List Text) := do
  match (← i.expose.parts).mapM Value.text? with
  | some ns => .ok ns
  | none => .error .notText

def bindings (i : BuiltImport) : Except Misuse (Option Text) :=
  if i.expose.isNull then .ok none
  else if i.isNamespace then .ok (some "*")
  else i.names.map fun ns => some (Exposure.namesText ns)

def line (i : BuiltImport) : Except Misuse Text :=
  i.bindings.map fun bindings? =>
    importLine i.source.plain (if i.localName.isTruthy then some i.localName.plain else none)
      bindings?

end BuiltImport

namespace Import

/-- The import as it would have been built, or how a value that is none is refused. -/
def build : Import → Except Failure BuiltImport
  | .given v => (ImportSpec.ofValue v).map .ofSpec
  | .built i => .ok i

def line : Import → Except Failure Text
  | .given v => (ImportSpec.ofValue v).map ImportSpec.line
  | .built i => i.line.mapError .misuse

def lines (is : List Import) : Except Failure (List Text) := is.mapM line

end Import

end SceneBook
