import SceneBook.Text.Fingerprint
import SceneBook.Text.JsonString
import SceneBook.Workbook.Basic

/-!
# Artifacts

A named text that collation has made, and the manifest that lists artifacts as JSON. The names of
artifacts are fixed, since the pages that load them rely on them.
-/

namespace SceneBook

structure Artifact where
  name : Text
  language : Text
  mode : Mode
  code : Text
  scene : Option Int
  moduleName : Option Text
  deriving DecidableEq

namespace Artifact

def templatesName : Text := "templates.html"
def scenesName : Text := "scenes.html"
def stylesName : Text := "styles.css"
def shapesName : Text := "defs.svg"
def moduleFileName : Text := "module.js"

def sceneName (number : Text) : Text := "scene-" ++ number ++ ".svg"

def digest (a : Artifact) : Text := a.code.fingerprint

/-- The parts of an artifact in the order of the manifest. -/
def toEntries (withCode : Bool) (a : Artifact) : Entries Value :=
  [(.text "name", .text a.name), (.text "language", .text a.language),
      (.text "mode", .text a.mode.word), (.text "digest", .text a.digest)] ++
    (a.scene.toList.map fun n => (.text "scene", .int n)) ++
    (a.moduleName.toList.map fun n => (.text "module_name", .text n)) ++
    (if withCode then [(.text "code", .text a.code)] else [])

/-- Integers in a manifest take 64 bits, with or without a sign. -/
def fitsManifest (i : Int) : Bool := -0x8000000000000000 ≤ i && i < 0x10000000000000000

/-- A part of an artifact in JSON: a text or an integer. -/
def partJson? : Value → Option Text
  | .scalar (.text t) => t.plainJson?
  | .scalar (.int i) => if fitsManifest i then some (Text.ofInt i) else none
  | _ => none

/-- Where the parts of the manifest stand: on lines of their own with two blanks for each level,
or all on one line. -/
structure Layout where
  itemBreak : Text
  partBreak : Text
  endBreak : Text
  colon : Text

def Layout.pretty : Layout := ⟨"\n  ", "\n    ", "\n", ": "⟩

def Layout.compact : Layout := ⟨[], [], [], ":"⟩

def entryJson? (layout : Layout) : Scalar × Value → Option Text
  | (.text k, v) => do
    let key ← Text.plainJson? k
    let part ← partJson? v
    pure (layout.partBreak ++ key ++ layout.colon ++ part)
  | _ => none

def json? (layout : Layout) (withCode : Bool) (a : Artifact) : Option Text :=
  ((a.toEntries withCode).mapM (entryJson? layout)).map fun parts =>
    layout.itemBreak ++ "\x7b" ++ Text.join "," parts ++ layout.itemBreak ++ "\x7d"

/-- The manifest of artifacts; a text with a lone surrogate in it has none. -/
def manifest? (layout : Layout) (withCode : Bool) (as : List Artifact) : Option Text :=
  match as with
  | [] => some "[]"
  | as => (as.mapM (json? layout withCode)).map fun items =>
    "[" ++ Text.join "," items ++ layout.endBreak ++ "]"

end Artifact

namespace Classification

def toEntries (c : Classification) : Entries Value :=
  [(.text "mode", .text c.mode.word)] ++
    (c.subtype.toList.map fun s => (.text "subtype", .text s)) ++
    (c.definitionName.toList.map fun n => (.text "definition_name", .text n))

def json? (c : Classification) : Option Text :=
  (c.toEntries.mapM (Artifact.entryJson? .compact)).map fun parts =>
    "\x7b" ++ Text.join "," parts ++ "\x7d"

end Classification

end SceneBook
