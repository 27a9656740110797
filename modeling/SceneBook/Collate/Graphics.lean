import SceneBook.Artifact
import SceneBook.Settings.Basic
import SceneBook.Workbook.Extraction

/-!
# Collated graphics

One hidden document with the shared shapes, which is there even without any, and one document for
each scene that draws something.
-/

namespace SceneBook.Graphics

def root (content nameSpace : Text) (hidden : Bool) : Text :=
  let style : Text := if hidden then " style=\"display:none;\"" else []
  "<svg xmlns=\"" ++ nameSpace ++ "\"" ++ style ++ ">" ++ content ++ "</svg>"

def shapes (definitions : List Item) (nameSpace : Text) : Artifact :=
  ⟨Artifact.shapesName, "svg", .define,
    root ("\n<defs>" ++ Text.join "\n" (definitions.map Item.code) ++ "</defs>") nameSpace true,
    none, none⟩

def scene (index : Int) (code nameSpace : Text) : Artifact :=
  ⟨Artifact.sceneName (Text.ofInt (index + 1)), "svg", .eval, root code nameSpace false,
    some (index + 1), none⟩

def collate (e : Extraction) (s : Settings) : List Artifact :=
  shapes e.definitions s.svgNamespace.plain ::
    (Item.groupByScene "\n" e.scenes).map fun (index, code) => scene index code s.svgNamespace.plain

end SceneBook.Graphics
