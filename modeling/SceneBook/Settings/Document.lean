import SceneBook.Settings.Basic
import SceneBook.Text.Blank
import SceneBook.Text.LowerCase

/-!
# Settings in documents

Reading settings from the value of a configuration file: they stand under the key `output`. The
value is not checked here; what is missing is the default.
-/

namespace SceneBook.Settings

/-- The words for yes, whatever their letter case and the blanks around them. -/
def isYes (t : Text) : Bool :=
  let w := t.strip.lower
  w = ("true" : Text) || w = ("1" : Text) || w = ("yes" : Text) || w = ("on" : Text)

/-- A text is true when it is a word for yes, and any other value when it is not empty. -/
def truth (v : Value) : Bool :=
  match v.text? with
  | some t => isYes t
  | none => v.isTruthy

/-- The settings of the entries under `output`, with the announcement as a truth value. -/
def ofOutput (es : Entries Value) : Settings :=
  let s := ofEntries es
  { s with announceLoad := .bool (truth s.announceLoad) }

/-- The entries under `output`; any empty value stands for none. -/
def outputEntries (es : Entries Value) : Except Misuse (Entries Value) :=
  match es.field? "output" with
  | none => .ok []
  | some v =>
    if !v.isTruthy then .ok []
    else match v.map? with
      | some out => .ok out
      | none => .error .noSuchPart

def ofDocument (v : Value) : Except Misuse Settings :=
  match v.map? with
  | none => .error .noSuchPart
  | some es => (outputEntries es).map ofOutput

end SceneBook.Settings
