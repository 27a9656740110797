import SceneBook.Value.Entries

/-!
# Values

The values a document, a configuration file or a host hands over: scalars and collections of
values. A collection may hold itself, directly or further in. Such a value is a knot: it has a
label, and inside it the label stands for the whole. Every collection that lies on a way back to
itself is a knot; all others are plain trees.
-/

namespace SceneBook

inductive Value
  | scalar (s : Scalar)
  | list (items : List Value)
  | tuple (items : List Value)
  | set (members : List Scalar)
  | map (entries : List (Scalar × Value))
  /-- A collection that the label stands for inside the body. -/
  | knot (label : Nat) (body : Value)
  /-- The collection around this place that has the label, and whether it is a mapping. -/
  | back (label : Nat) (isMap : Bool)

namespace Value

abbrev null : Value := .scalar .null
abbrev bool (b : Bool) : Value := .scalar (.bool b)
abbrev int (i : Int) : Value := .scalar (.int i)
abbrev text (t : Text) : Value := .scalar (.text t)

instance : Inhabited Value := ⟨null⟩

def isNull : Value → Bool
  | .scalar .null => true
  | _ => false

def text? : Value → Option Text
  | .scalar (.text t) => some t
  | _ => none

theorem text?_eq_some_iff {v : Value} {t : Text} : v.text? = some t ↔ v = .text t := by
  cases v with
  | scalar s => cases s <;> simp [text?]
  | _ => simp [text?]

def scalar? : Value → Option Scalar
  | .scalar s => some s
  | _ => none

def isMap : Value → Bool
  | .map _ => true
  | _ => false

mutual

/-- The value with the labels of outer knots in the place of what carries them. -/
def cut (outer : List Nat) : Value → Value
  | .knot l b => if outer.contains l then .back l b.isMap else .knot l (cut outer b)
  | .list vs => .list (cutItems outer vs)
  | .tuple vs => .tuple (cutItems outer vs)
  | .map es => .map (cutEntries outer es)
  | v => v

def cutItems (outer : List Nat) : List Value → List Value
  | [] => []
  | v :: rest => cut outer v :: cutItems outer rest

def cutEntries (outer : List Nat) : List (Scalar × Value) → List (Scalar × Value)
  | [] => []
  | (k, v) :: rest => (k, cut outer v) :: cutEntries outer rest

end

mutual

/-- A part of a knot, taken out of it: the whole takes the place of its label. Where it does so
inside other knots, `outer` are the labels of these. -/
def loosen (label : Nat) (whole : Value) (outer : List Nat) : Value → Value
  | .back l m => if l = label then whole.cut outer else .back l m
  | .knot l b => .knot l (loosen label whole (l :: outer) b)
  | .list vs => .list (loosenItems label whole outer vs)
  | .tuple vs => .tuple (loosenItems label whole outer vs)
  | .map es => .map (loosenEntries label whole outer es)
  | v => v

def loosenItems (label : Nat) (whole : Value) (outer : List Nat) : List Value → List Value
  | [] => []
  | v :: rest => loosen label whole outer v :: loosenItems label whole outer rest

def loosenEntries (label : Nat) (whole : Value) (outer : List Nat) :
    List (Scalar × Value) → List (Scalar × Value)
  | [] => []
  | (k, v) :: rest => (k, loosen label whole outer v) :: loosenEntries label whole outer rest

end

/-- The value with its own knot undone, so that its parts can be looked at one by one. -/
def opened : Value → Value
  | .knot l b => loosen l (.knot l b) [] b
  | v => v

def list? (v : Value) : Option (List Value) :=
  match v.opened with
  | .list vs => some vs
  | _ => none

def map? (v : Value) : Option (Entries Value) :=
  match v.opened with
  | .map es => some es
  | _ => none

/-- A value is true unless it is null, no, zero or empty. -/
def isTruthy : Value → Bool
  | .scalar s => s.isTruthy
  | .list vs => !vs.isEmpty
  | .tuple vs => !vs.isEmpty
  | .set ks => !ks.isEmpty
  | .map es => !es.isEmpty
  | .knot _ b => b.isTruthy
  | .back .. => true

def kindName : Value → Text
  | .scalar s => s.kindName
  | .list _ => "list"
  | .tuple _ => "tuple"
  | .set _ => "set"
  | .map _ => "dict"
  | .knot _ b => b.kindName
  | .back _ m => if m then "dict" else "list"

/-- A mapping with a value written under a key. What leads back to the mapping leads back to it as
it is then. -/
def put? (v : Value) (k : Scalar) (new : Value) : Option Value :=
  match v with
  | .map es => some (.map (Entries.put es k new))
  | .knot l (.map es) => some (.knot l (.map (Entries.put es k new)))
  | _ => none

mutual

/-- Whether a value can be looked up in a mapping: a scalar, or a tuple of such values. -/
def isKey : Value → Bool
  | .scalar _ => true
  | .tuple items => areKeys items
  | _ => false

def areKeys : List Value → Bool
  | [] => true
  | v :: rest => isKey v && areKeys rest

end

/-- The value as a key of a mapping; only scalars stand there as keys. -/
def key? (v : Value) : Except Misuse Scalar :=
  match v.scalar? with
  | some s => .ok s
  | none => .error .notAKey

/-- What a value is gone through by: the items of a list, the letters of a text, the bytes of
bytes, or the keys of a mapping. -/
def parts (v : Value) : Except Misuse (List Value) :=
  match v.opened with
  | .list vs | .tuple vs => .ok vs
  | .set ks => .ok (ks.map .scalar)
  | .map es => .ok (es.map fun e => .scalar e.1)
  | .scalar (.text t) => .ok (t.map fun c => .text [c])
  | .scalar (.bytes bs) => .ok (bs.map fun (n : Nat) => .int n)
  | _ => .error .noParts

def entries (v : Value) : Except Misuse (Entries Value) :=
  match v.map? with
  | some es => .ok es
  | none => do Entries.addPairs parts key? [] (← v.parts)

end Value

def Entries.seek {α : Type} (es : Entries α) (v : Value) : Except Misuse (Option α) :=
  match v.scalar? with
  | some k => .ok (es.find? k)
  | none => if v.isKey then .ok none else .error .notAKey

@[simp] theorem Entries.seek_scalar {α : Type} (es : Entries α) (k : Scalar) :
    es.seek (.scalar k) = .ok (es.find? k) := rfl

theorem Entries.seek_eq_ok_some_iff {α : Type} {es : Entries α} {v : Value} {a : α} :
    es.seek v = .ok (some a) ↔ ∃ k, v = .scalar k ∧ es.find? k = some a := by
  cases v with
  | scalar k => simp
  | _ =>
    simp only [seek, Value.scalar?, reduceCtorEq, false_and, exists_false, iff_false]
    split <;> simp

def Entries.field? {α : Type} (es : Entries α) (name : Text) : Option α := es.find? (.text name)

end SceneBook
