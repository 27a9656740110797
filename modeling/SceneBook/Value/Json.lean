import SceneBook.Text.JsonString
import SceneBook.Value.Basic

/-!
# Values as JSON

The one-line JSON text of a value in printable ASCII. Dates, bytes, sets and values that contain
themselves have none, and neither has a mapping with such a key.
-/

namespace SceneBook

namespace Scalar

def json? : Scalar → Option Text
  | .null => some "null"
  | .bool b => some (if b then "true" else "false")
  | .int i => some (Text.ofInt i)
  | .float d => some (match d.magnitude with
    | .notANumber => "NaN"
    | .infinite => if d.isNegative then "-Infinity" else "Infinity"
    | .finite .. => d.text)
  | .text t => some t.asciiJson
  | .date _ => none
  | .instant _ => none
  | .bytes _ => none

/-- A key is always a string: a text as it is, any other scalar by its JSON text. -/
def jsonKey? : Scalar → Option Text
  | .text t => some t.asciiJson
  | s => s.json?.map Text.asciiJson

end Scalar

namespace Value

mutual

def json? : Value → Option Text
  | .scalar s => s.json?
  | .list items | .tuple items =>
    (jsonItems? items).map fun ts => "[" ++ Text.join ", " ts ++ "]"
  | .map es => (jsonEntries? es).map fun ts => "\x7b" ++ Text.join ", " ts ++ "\x7d"
  | .set _ | .knot .. | .back .. => none

def jsonItems? : List Value → Option (List Text)
  | [] => some []
  | v :: rest => do
    let t ← json? v
    let ts ← jsonItems? rest
    pure (t :: ts)

def jsonEntries? : List (Scalar × Value) → Option (List Text)
  | [] => some []
  | (k, v) :: rest => do
    let kt ← k.jsonKey?
    let t ← json? v
    let ts ← jsonEntries? rest
    pure ((kt ++ ": " ++ t) :: ts)

end

end Value

end SceneBook
