import SceneBook.Value.Shown
import SceneBook.Failure

/-!
# Settings

The settings that shape the text of artifacts. They are kept as they were given, of any kind, and
checked by `fault?`; what collation writes is their text.
-/

namespace SceneBook

structure Settings where
  sceneElement : Value
  storeRootKey : Value
  announceLoad : Value
  svgNamespace : Value

inductive SettingsFault
  | sceneElement (given : Value)
  | storeRootKey (given : Value)
  | svgNamespace

namespace SettingsFault

def message : SettingsFault → Text
  | .sceneElement given =>
    "Invalid scene element '" ++ given.plain ++
      "'. Use a custom element name such as 'kram-scene'"
  | .storeRootKey given =>
    "Invalid store root key '" ++ given.plain ++ "'. Use a plain identifier"
  | .svgNamespace => "SVG namespace must be a non-empty string"

def obstacle? [Limits] : SettingsFault → Option Misuse
  | .sceneElement given | .storeRootKey given => given.unshown?
  | .svgNamespace => none

end SettingsFault

namespace Settings

def defaultSceneElement : Text := "kram-scene"

def defaultRootKey : Text := "root"

def defaultNamespace : Text := "http://www.w3.org/2000/svg"

def default : Settings :=
  ⟨.text defaultSceneElement, .text defaultRootKey, .bool true, .text defaultNamespace⟩

instance : Inhabited Settings := ⟨default⟩

def isLowerLetter (c : CodePoint) : Bool := 0x61 ≤ c.code && c.code ≤ 0x7A

def isLetter (c : CodePoint) : Bool := isLowerLetter c || (0x41 ≤ c.code && c.code ≤ 0x5A)

def isDigit (c : CodePoint) : Bool := 0x30 ≤ c.code && c.code ≤ 0x39

def isElementPart (c : CodePoint) : Bool :=
  isLowerLetter c || isDigit c || c = .scalar '.' || c = .scalar '_' || c = .scalar '-'

def startsIdentifier (c : CodePoint) : Bool := isLetter c || c = .scalar '_' || c = .scalar '$'

def isIdentifierPart (c : CodePoint) : Bool := startsIdentifier c || isDigit c

/-- A lower-case letter, then letters, digits, dots, underscores and at least one hyphen. -/
def isElementName : Text → Bool
  | [] => false
  | c :: rest => isLowerLetter c && rest.all isElementPart && rest.contains (.scalar '-')

def isIdentifier : Text → Bool
  | [] => false
  | c :: rest => startsIdentifier c && rest.all isIdentifierPart

def withoutFinalBreak (t : Text) : Text :=
  if t.getLast? = some (.scalar '\n') then t.dropLast else t

/-- Both names may be followed by one line feed. -/
def okElement (v : Value) : Bool := v.text?.any fun t => isElementName (withoutFinalBreak t)

def okRootKey (v : Value) : Bool := v.text?.any fun t => isIdentifier (withoutFinalBreak t)

def okNamespace (v : Value) : Bool := v.text?.any fun t => !t.isEmpty

/-- The first setting in the order of the fields that collation should not be given. -/
def fault? (s : Settings) : Option SettingsFault :=
  if !okElement s.sceneElement then some (.sceneElement s.sceneElement)
  else if !okRootKey s.storeRootKey then some (.storeRootKey s.storeRootKey)
  else if !okNamespace s.svgNamespace then some .svgNamespace
  else none

def fieldNames : List Text :=
  ["scene_element", "store_root_key", "announce_load", "svg_namespace"]

def ofEntries (es : Entries Value) : Settings :=
  ⟨(es.field? "scene_element").getD default.sceneElement,
    (es.field? "store_root_key").getD default.storeRootKey,
    (es.field? "announce_load").getD default.announceLoad,
    (es.field? "svg_namespace").getD default.svgNamespace⟩

/-- Settings from fields given by name; a name that is no field is refused. -/
def ofFields (es : Entries Value) : Except Misuse Settings :=
  if es.keys.all fun k => (fieldNames.map Scalar.text).contains k then .ok (ofEntries es)
  else .error .unknownSetting

def toEntries (s : Settings) : Entries Value :=
  [(.text "scene_element", s.sceneElement), (.text "store_root_key", s.storeRootKey),
    (.text "announce_load", s.announceLoad), (.text "svg_namespace", s.svgNamespace)]

def toDocument (s : Settings) : Value := .map [(.text "output", .map s.toEntries)]

end Settings

end SceneBook
