import SceneBook.Report
import SceneBook.Workbook.Basic

/-!
# Workbook documents

Reading a workbook from the value of a document: a mapping with the module name, the imports and
the scenes. The first fault in document order is the one reported.
-/

namespace SceneBook

inductive SceneFault
  | fragmentsNotList
  | fragmentNotMapping
  | noLanguage
  | codeNotText (language : Text)
  | attrsNotMapping (language : Text)
  deriving DecidableEq

inductive DocumentFault
  | notMapping
  | noModuleName
  | importsNotList
  | scenesNotList
  /-- A fault inside a scene, by the number of the scene. -/
  | scene (number : Nat) (fault : SceneFault)
  deriving DecidableEq

namespace SceneFault

def message : SceneFault → Text
  | .fragmentsNotList => "'fragments' must be a list"
  | .fragmentNotMapping => "fragment must be a mapping"
  | .noLanguage => "fragment requires a 'language'"
  | .codeNotText _ => "fragment 'code' must be text"
  | .attrsNotMapping _ => "fragment 'attrs' must be a mapping"

def language? : SceneFault → Option Text
  | .codeNotText l | .attrsNotMapping l => some l
  | _ => none

end SceneFault

namespace DocumentFault

def message : DocumentFault → Text
  | .notMapping => "Workbook document must be a mapping"
  | .noModuleName => "'module' must be a non-empty string"
  | .importsNotList => "'imports' must be a list"
  | .scenesNotList => "'scenes' must be a list"
  | .scene number fault => "Scene " ++ Text.ofNat number ++ ": " ++ fault.message

def context : DocumentFault → Entries Value
  | .scene number fault =>
    (.text "scene", .int number) :: (match fault.language? with
      | some l => [(.text "language", .text l)]
      | none => [])
  | _ => []

def report (fault : DocumentFault) : Report := .workbook fault.message fault.context

end DocumentFault

/-- A list, where a missing or an empty value of any kind stands for the empty list. -/
def Value.listOrEmpty? : Option Value → Option (List Value)
  | none => some []
  | some v => if v.isTruthy then v.list? else some []

def Value.mapOrEmpty? : Option Value → Option (Entries Value)
  | none => some []
  | some v => if v.isTruthy then v.map? else some []

def Value.nonEmptyText? (v : Value) : Option Text := v.text?.filter fun t => !t.isEmpty

namespace Fragment

def ofEntries (es : Entries Value) : Except SceneFault Fragment :=
  match (es.field? "language").bind Value.nonEmptyText? with
  | none => .error .noLanguage
  | some language =>
    match ((es.field? "code").getD (.text [])).text? with
    | none => .error (.codeNotText language)
    | some code =>
      match Value.mapOrEmpty? (es.field? "attrs") with
      | none => .error (.attrsNotMapping language)
      | some attrs => .ok ⟨language, code, attrs, none⟩

def ofValue (v : Value) : Except SceneFault Fragment :=
  match v.map? with
  | none => .error .fragmentNotMapping
  | some es => ofEntries es

end Fragment

/-- The fragments of a scene, which is a list of them or a mapping that holds the list. -/
def Scene.fragmentsOfValue (v : Value) : Except SceneFault (List Fragment) :=
  let items? := match v.map? with
    | some es => Value.listOrEmpty? (es.field? "fragments")
    | none => v.list?
  match items? with
  | none => .error .fragmentsNotList
  | some items => items.mapM Fragment.ofValue

namespace Workbook

def scenesOfValues (number : Nat) : List Value → Except DocumentFault (List (List Fragment))
  | [] => .ok []
  | v :: rest => do
    let here ← (Scene.fragmentsOfValue v).mapError (.scene number)
    let later ← scenesOfValues (number + 1) rest
    .ok (here :: later)

def nameOfEntries? (es : Entries Value) : Option Text :=
  match es.field? "module" with
  | some v => v.nonEmptyText?
  | none => match es.field? "module_name" with
    | some v => v.nonEmptyText?
    | none => some "main"

def ofEntries (es : Entries Value) : Except DocumentFault Workbook :=
  match nameOfEntries? es with
  | none => .error .noModuleName
  | some name =>
    match Value.listOrEmpty? (es.field? "imports") with
    | none => .error .importsNotList
    | some imports =>
      match Value.listOrEmpty? (es.field? "scenes") with
      | none => .error .scenesNotList
      | some raw => (scenesOfValues 1 raw).map (build name (imports.map .given))

def ofDocument (v : Value) : Except DocumentFault Workbook :=
  match v.map? with
  | none => .error .notMapping
  | some es => ofEntries es

/-- The workbook of what a file holds; a file without content is an empty workbook. -/
def ofFileValue (v : Value) : Except DocumentFault Workbook :=
  if v.isTruthy then ofDocument v else ofEntries []

end Workbook

end SceneBook
