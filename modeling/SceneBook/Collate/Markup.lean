import SceneBook.Artifact
import SceneBook.Settings.Basic
import SceneBook.Workbook.Extraction

/-!
# Collated markup

Templates go into one artifact and scenes into another, each scene inside an element that carries
its number. An artifact without content is left out.
-/

namespace SceneBook.Markup

def wrapScene (code number element : Text) : Text :=
  "<" ++ element ++ " scene=\"" ++ number ++ "\">" ++ code ++ "</" ++ element ++ ">"

def templates (definitions : List Item) : List Artifact :=
  if definitions.isEmpty then []
  else [⟨Artifact.templatesName, "html", .define,
    Text.join "\n" (definitions.map Item.code), none, none⟩]

def scenes (items : List Item) (element : Text) : List Artifact :=
  if items.isEmpty then []
  else [⟨Artifact.scenesName, "html", .eval,
    Text.join "\n" ((Item.groupByScene "\n" items).map fun (index, code) =>
      wrapScene code (Text.ofInt (index + 1)) element), none, none⟩]

def collate (e : Extraction) (s : Settings) : List Artifact :=
  templates e.definitions ++ scenes e.scenes s.sceneElement.plain

end SceneBook.Markup
