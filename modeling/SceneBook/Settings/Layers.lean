import SceneBook.Settings.Document
import SceneBook.Workbook.File

/-!
# Layers of settings

Settings come from the user's file, the project's file and the environment. A later layer is
merged over the earlier ones entry by entry, and what none of them gives is the default.
-/

namespace SceneBook.Settings

/-- What a value of a later layer makes of the one before it: two mappings are merged, and
anything else replaces what was there. -/
def overlay (merge : Entries Value → Entries Value → Except Misuse (Entries Value))
    (base : Option Value) (v : Value) : Except Misuse Value :=
  match base.bind Value.map?, v.map? with
  | some bs, some vs => (merge bs vs).map .map
  | _, _ => .ok v

/-- The entries of a later layer over those of an earlier one, one after the other. -/
def overlayEach (merge : Entries Value → Entries Value → Except Misuse (Entries Value))
    (base later : Entries Value) : Except Misuse (Entries Value) :=
  later.foldlM (fun es (k, v) => (overlay merge (es.find? k) v).map (es.put k)) base

def mergeWithin : Nat → Entries Value → Entries Value → Except Misuse (Entries Value)
  | 0 => fun _ _ => .error .tooDeep
  | depth + 1 => overlayEach (mergeWithin depth)

/-- The entries of a later layer over those of an earlier one. Mappings of both that contain
themselves are nested in each other without end. -/
def layer [Limits] (base later : Entries Value) : Except Misuse (Entries Value) :=
  mergeWithin Limits.merge base later

/-- The variables that set a field, in the order in which they are looked at. -/
def fieldVariables : List (Text × Text) :=
  [("KRAM_SCENE_ELEMENT", "scene_element"), ("KRAM_STORE_ROOT_KEY", "store_root_key"),
    ("KRAM_ANNOUNCE_LOAD", "announce_load"), ("KRAM_SVG_NAMESPACE", "svg_namespace")]

structure File where
  path : Text
  entry : Entry

structure Sources where
  user : File
  project : File
  environment : List (Text × Text)

def malformed (path : Text) : Report :=
  .config ("Malformed config file " ++ path ++ ": " ++ Yaml.Fault.detail)
    [(.text "path", .text path)]

def notMapping (path : Text) : Report :=
  .config ("Config file " ++ path ++ " must contain a mapping") [(.text "path", .text path)]

/-- The entries of a file; one that is not there has none. -/
def File.entries (f : File) : Except Failure (Entries Value) :=
  match f.entry with
  | .missing | .blocked => .ok []
  | .folder => .error (.file .folder f.path)
  | .tooLong => .error (.file .tooLong f.path)
  | .file cs =>
    match Yaml.read cs with
    | .error fault => .error (fault.failure (malformed f.path))
    | .ok v =>
      if !v.isTruthy then .ok []
      else match v.map? with
        | some es => .ok es
        | none => .error (.report (notMapping f.path))

/-- Writes a field under `output`, which has to be a mapping where it is there. -/
def putField (es : Entries Value) (field value : Text) : Except Misuse (Entries Value) :=
  match ((es.field? "output").getD (.map [])).put? (.text field) (.text value) with
  | some out => .ok (es.put (.text "output") out)
  | none => .error .notWritable

/-- The variables over the entries; an empty one counts as not set. -/
def applyVariables (environment : List (Text × Text)) (es : Entries Value) :
    List (Text × Text) → Except Misuse (Entries Value)
  | [] => .ok es
  | (name, field) :: rest =>
    match (environment.lookup name).filter fun v => !v.isEmpty with
    | none => applyVariables environment es rest
    | some v => do
      let es ← putField es field v
      applyVariables environment es rest

namespace Sources

def entries [Limits] (s : Sources) : Except Failure (Entries Value) := do
  let user ← s.user.entries
  let project ← s.project.entries
  (do
    let es ← layer (← layer [] user) project
    applyVariables s.environment es fieldVariables).mapError Failure.misuse

def settings [Limits] (s : Sources) : Except Failure Settings := do
  let es ← s.entries
  (ofDocument (.map es)).mapError .misuse

def load [Limits] (s : Sources) : Except Failure Settings := do
  let t ← s.settings
  match t.fault? with
  | none => .ok t
  | some f =>
    match f.obstacle? with
    | none => .error (.report (.config f.message [(.text "config", t.toDocument)]))
    | some e => .error (.misuse e)

end Sources

end SceneBook.Settings
