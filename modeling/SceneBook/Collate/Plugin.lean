import SceneBook.Collate.Graphics
import SceneBook.Collate.Markup
import SceneBook.Collate.Scripting
import SceneBook.Collate.Styling
import SceneBook.Language.Web

/-!
# Plugins

A plugin binds a language to settings: it classifies fragments of the language and collates them.
-/

namespace SceneBook

def Medium.collate (m : Medium) (w : Workbook) (e : Extraction) (s : Settings) :
    Except Failure (List Artifact) :=
  match m with
  | .markup => .ok (Markup.collate e s)
  | .styling => .ok (Styling.collate e)
  | .graphics => .ok (Graphics.collate e s)
  | .scripting => Scripting.collate w e s

structure Plugin where
  language : Language
  settings : Settings

namespace Plugin

def tag (p : Plugin) : Text := p.language.tag

def classify (p : Plugin) (code : Text) : Classification := p.language.classify code

def collateExtraction (p : Plugin) (w : Workbook) (e : Extraction) :
    Except Failure (List Artifact) :=
  p.language.medium.collate w e p.settings

def collate (p : Plugin) (w : Workbook) : Except Failure (List Artifact) :=
  p.collateExtraction w (w.extract p.tag)

def web (s : Settings) : List Plugin := Language.web.map fun l => ⟨l, s⟩

end Plugin

end SceneBook
