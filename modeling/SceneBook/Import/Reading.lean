import SceneBook.Import.Basic
import SceneBook.Failure
import SceneBook.Text.Blank

/-!
# Reading imports

An import as a document gives it: a mapping with the options `from`, `as` and `expose`.
-/

namespace SceneBook

inductive ImportFault
  | notMapping (kind : Text)
  | unknownOptions (keys : List Scalar)
  | noSource
  | unquotable (source : Text)
  | badLocalName
  | otherWord (word : Text)
  | exposesNone
  | badNames
  | otherKind (kind : Text)
  deriving DecidableEq

namespace ImportFault

def message : ImportFault → Text
  | .notMapping kind => "Import specification must be a mapping, got " ++ kind
  | .unknownOptions keys =>
    "Unknown import option(s): " ++ Text.join ", " (Text.sort (keys.map Scalar.plain)) ++
      ". Valid: as, expose, from"
  | .noSource => "Import specification requires a non-empty 'from'"
  | .unquotable source => "Module specifier cannot be quoted: " ++ source.quoted
  | .badLocalName => "'as' must be a non-empty name"
  | .otherWord word => "'expose' must be \"*\" or a list of names, got " ++ word.quoted
  | .exposesNone => "'expose' list cannot be empty"
  | .badNames => "'expose' names must be non-empty strings"
  | .otherKind kind => "'expose' must be \"*\" or a list of names, got " ++ kind

def isWritable : ImportFault → Bool
  | .unknownOptions keys => keys.all Scalar.isWritable
  | _ => true

/-- A report that carries the value, unless its message cannot be written. -/
def failure (fault : ImportFault) (spec : Value) : Failure :=
  if fault.isWritable then .report (.importSpec fault.message spec) else .misuse .tooLong

end ImportFault

namespace ImportSpec

def isOption (key : Scalar) : Bool :=
  key = .text "from" || key = .text "as" || key = .text "expose"

def name? (v : Value) : Option Text := v.text?.filter fun t => !t.isBlank

def readSource (v : Option Value) : Except ImportFault Text :=
  match v.bind name? with
  | none => .error .noSource
  | some source =>
    if source.contains (.scalar '\'') || source.contains (.scalar '\n') then
      .error (.unquotable source)
    else .ok source

def readLocalName (v : Option Value) : Except ImportFault (Option Text) :=
  match v with
  | none => .ok none
  | some v =>
    if v.isNull then .ok none
    else match name? v with
      | some a => .ok (some a)
      | none => .error .badLocalName

def readNames : List Value → Except ImportFault Exposure
  | [] => .error .exposesNone
  | v :: vs =>
    match (v :: vs).mapM name? with
    | some ns => .ok (.names ns)
    | none => .error .badNames

def readExpose (v : Option Value) : Except ImportFault Exposure :=
  match v with
  | none => .ok .nothing
  | some v =>
    match v.opened with
    | .scalar .null => .ok .nothing
    | .scalar (.text word) =>
      if word = ("*" : Text) then .ok .everything else .error (.otherWord word)
    | .list vs | .tuple vs => readNames vs
    | _ => .error (.otherKind v.kindName)

def readOptions (es : Entries Value) : Except ImportFault ImportSpec := do
  let unknown := es.keys.filter fun k => !isOption k
  if !unknown.isEmpty then
    .error (.unknownOptions unknown)
  else
    let source ← readSource (es.field? "from")
    let localName ← readLocalName (es.field? "as")
    let expose ← readExpose (es.field? "expose")
    .ok ⟨source, localName, expose⟩

def read (v : Value) : Except ImportFault ImportSpec :=
  match v.map? with
  | some es => readOptions es
  | none => .error (.notMapping v.kindName)

/-- The import of a value, or how the value is refused. -/
def ofValue (v : Value) : Except Failure ImportSpec :=
  (read v).mapError fun fault => fault.failure v

end ImportSpec

end SceneBook
