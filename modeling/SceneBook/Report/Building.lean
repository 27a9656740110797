import SceneBook.Misuse
import SceneBook.Report

/-!
# Building reports

A host builds reports of its own from arguments of any kind. Arguments are bound to the parameters
of the report in their order or by name; each parameter takes one, and one without a default has
to be given.
-/

namespace SceneBook

structure Parameter where
  name : Text
  default? : Option Value
  /-- It is given by its name alone. -/
  byName : Bool

namespace Parameter

def needed (name : Text) : Parameter := ⟨name, none, false⟩

def optional (name : Text) (default : Value) : Parameter := ⟨name, some default, false⟩

/-- The argument of each parameter, in their order. The arguments that are given by place go to
the first parameters that are not for names alone. -/
def take (named : Entries Value) : List Parameter → List Value → Except Misuse (List Value)
  | [], [] => .ok []
  | [], _ :: _ => .error .badArguments
  | p :: ps, [] =>
    match ((named.field? p.name).orElse fun _ => p.default?) with
    | none => .error .badArguments
    | some v => (take named ps []).map (v :: ·)
  | p :: ps, v :: vs =>
    if p.byName then
      match ((named.field? p.name).orElse fun _ => p.default?) with
      | none => .error .badArguments
      | some u => (take named ps (v :: vs)).map (u :: ·)
    else if (named.field? p.name).isSome then .error .badArguments
    else (take named ps vs).map (v :: ·)

def bind (ps : List Parameter) (placed : List Value) (named : Entries Value) :
    Except Misuse (List Value) :=
  if named.keys.all fun k => (ps.map fun p => Scalar.text p.name).contains k then
    take named ps placed
  else .error .badArguments

end Parameter

namespace Report

namespace Kind

def ofCode? (code : Text) : Option Kind :=
  [.general, .config, .workbook, .importSpec, .alreadyRegistered, .unknownLanguage, .storePath,
    .sceneOutOfRange].find? fun k => k.code = code

def parameters : Kind → List Parameter
  | .general | .config | .workbook =>
    [.optional "message" (.text []), ⟨"context", some .null, true⟩]
  | .importSpec => [.needed "message", .optional "spec" .null]
  | .alreadyRegistered => [.needed "tag"]
  | .unknownLanguage =>
    [.needed "tag", .optional "known" (.tuple []), .optional "suggestion" .null]
  | .storePath => [.needed "path", .needed "segment"]
  | .sceneOutOfRange => [.needed "scene_number", .needed "scene_count"]

end Kind

def messageOf (v : Value) : Except Misuse Text :=
  match v.text? with
  | some t => .ok t
  | none => .error .notText

def contextOf (v : Value) : Except Misuse (Entries Value) :=
  if v.isNull then .ok [] else v.entries

/-- The known tags. Where the message lists them, they have to be texts. -/
def knownOf (known suggestion : Value) : Except Misuse (List Value) := do
  let tags ← known.parts
  if suggestion.isTruthy || tags.all fun t => t.text?.isSome then .ok tags else .error .notText

def ofArguments (k : Kind) (arguments : List Value) : Except Misuse Report :=
  match k, arguments with
  | .general, [m, c] => do let c ← contextOf c; return .general (← messageOf m) c
  | .config, [m, c] => do let c ← contextOf c; return .config (← messageOf m) c
  | .workbook, [m, c] => do let c ← contextOf c; return .workbook (← messageOf m) c
  | .importSpec, [m, spec] => do return .importSpec (← messageOf m) spec
  | .alreadyRegistered, [tag] => .ok (.alreadyRegistered tag)
  | .unknownLanguage, [tag, known, suggestion] => do
    return .unknownLanguage tag (← knownOf known suggestion) suggestion
  | .storePath, [path, segment] => do return .storePath (← path.parts) segment
  | .sceneOutOfRange, [scene, count] => .ok (.sceneOutOfRange scene count)
  | _, _ => .error .badArguments

/-- The report of a kind from arguments given by place and by name, if its message can be
written. -/
def build [Limits] (k : Kind) (placed : List Value) (named : Entries Value) :
    Except Misuse Report := do
  let r ← ofArguments k (← Parameter.bind k.parameters placed named)
  match r.obstacle? with
  | none => pure r
  | some m => .error m

end Report

end SceneBook
