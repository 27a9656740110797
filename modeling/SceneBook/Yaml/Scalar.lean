import SceneBook.Text.Base64
import SceneBook.Text.LowerCase
import SceneBook.Yaml.Kind

/-!
# Scalars of YAML

The scalar of a kind that a text spells. A text of a stated kind may be spelled in more ways than
texts that look like that kind by themselves.
-/

namespace SceneBook.Yaml

def colonParts (t : Text) : List Text := Text.fields (.scalar ':') t

def withoutGaps (t : Text) : Except Fault Text :=
  match t.filter fun c => c ≠ .scalar '_' with
  | [] => .error (.literal .noDigits)
  | t => .ok t

def unsignedText : Text → Bool × Text
  | .scalar '-' :: t => (true, t)
  | .scalar '+' :: t => (false, t)
  | t => (false, t)

def sixties (ns : List Int) : Int := ns.foldl (fun n d => 60 * n + d) 0

/-- A whole number without its sign, which may have another one of its own. -/
def natural? (t : Text) : Option Int :=
  match t with
  | .scalar '0' :: .scalar 'b' :: ds => Text.integer? 2 ds
  | .scalar '0' :: .scalar 'x' :: ds => Text.integer? 16 ds
  | [.scalar '0'] => some 0
  | .scalar '0' :: _ => Text.integer? 8 t
  | _ =>
    if t.contains (.scalar ':') then ((colonParts t).mapM (Text.integer? 10)).map sixties
    else Text.integer? 10 t

def readInt (t : Text) : Except Fault Scalar := do
  let (negative, body) := unsignedText (← withoutGaps t)
  if body.isEmpty then .error (.literal .noDigits)
  else match natural? body with
    | some n => .ok (.int (if negative then -n else n))
    | none => .error (.literal .noSuchValue)

/-- The sum of parts in base sixty, the last one first, each times its power. -/
def sixtyDoubles (power : Nat) (total : Double) : List Double → Except Fault Double
  | [] => .ok total
  | d :: ds =>
    let factor := Double.ofInt power
    if factor.isFinite then sixtyDoubles (power * 60) (total.add (d.mul factor)) ds
    else .error (.literal .tooLarge)

def magnitude (t : Text) : Except Fault Double :=
  if t = (".inf" : Text) then .ok (Double.infinity false)
  else if t.contains (.scalar ':') then
    match (colonParts t).mapM Text.double? with
    | some ds => sixtyDoubles 1 (Double.ofInt 0) ds.reverse
    | none => .error (.literal .noSuchValue)
  else match Text.double? t with
    | some d => .ok d
    | none => .error (.literal .noSuchValue)

/-- Of the doubles that are no number, only those spelled with a leading point are the same one;
any other is told apart by its origin. -/
def readFloat (origin : Nat) (t : Text) : Except Fault Scalar := do
  let (negative, body) := unsignedText (← withoutGaps t).lower
  if body = (".nan" : Text) then .ok (.float Double.notANumber)
  else do
    let d ← magnitude body
    .ok (.float ((if negative then d.neg else d).withOrigin origin))

def readTimestamp (t : Text) : Except Fault Scalar :=
  match (chars? t).bind fun cs => timestamp? (withoutFinalBreak cs) with
  | some (.date d) => if d.isValid then .ok (.date d) else .error (.literal .noSuchValue)
  | some (.instant i) => if i.isValid then .ok (.instant i) else .error (.literal .noSuchValue)
  | _ => .error (.literal .notDate)

def isWordOf (words : List String) (t : Text) : Bool := words.any fun w => t = Text.ofString w

def readBool (t : Text) : Except Fault Scalar :=
  let word := t.lower
  if isWordOf trueWords word then .ok (.bool true)
  else if isWordOf falseWords word then .ok (.bool false)
  else .error (.literal .unknownWord)

def readBinary (t : Text) : Except Fault Scalar :=
  match ((chars? t).filter fun cs => cs.all fun c => c.toNat < 0x80).bind Text.base64? with
  | some bs => .ok (.bytes bs)
  | none => .error .malformed

/-- The scalar of a kind that a text spells; `origin` tells scalars apart that are not equal to
themselves. -/
def readScalar (origin : Nat) (k : Kind) (t : Text) : Except Fault Scalar :=
  match k with
  | .null => .ok .null
  | .bool => readBool t
  | .int => readInt t
  | .float => readFloat origin t
  | .timestamp => readTimestamp t
  | .text => .ok (.text t)
  | .binary => readBinary t
  | _ => .error .malformed

end SceneBook.Yaml
