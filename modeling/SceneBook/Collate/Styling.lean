import SceneBook.Artifact
import SceneBook.Workbook.Extraction

/-!
# Collated styling

All definitions in one artifact, each under a comment with the number of its scene. The artifact
is there even without any.
-/

namespace SceneBook.Styling

def provenance (number : Text) : Text := "/* Kram: CSS in Scene " ++ number ++ " */"

def block (i : Item) : Text := provenance (Text.ofInt i.sceneNumber) ++ "\n" ++ i.code

def collate (e : Extraction) : List Artifact :=
  [⟨Artifact.stylesName, "css", .define, Text.join "\n" (e.definitions.map block), none, none⟩]

end SceneBook.Styling
