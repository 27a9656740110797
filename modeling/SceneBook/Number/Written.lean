import SceneBook.Number.Shortest
import SceneBook.Text.CodePoint

/-!
# Written doubles

The text of a double and the double of a text. A finite double shows its shortest digits:
positionally for exponents from -4 to 15, and with an exponent of at least two digits otherwise.
-/

namespace SceneBook.Double

def trimZeros : List Char → List Char := fun ds => (ds.reverse.dropWhile (· = '0')).reverse

def positional (ds : List Char) (point : Int) : List Char :=
  if point ≤ 0 then '0' :: '.' :: (List.replicate (-point).toNat '0' ++ ds)
  else
    let whole := ds.take point.toNat
    let pad := List.replicate (point.toNat - whole.length) '0'
    let tail := ds.drop point.toNat
    whole ++ pad ++ '.' :: (if tail.isEmpty then ['0'] else tail)

def withExponent (ds : List Char) (expo : Int) : List Char :=
  let size := Nat.toDigits 10 expo.natAbs
  ds.take 1 ++ (if ds.length ≤ 1 then [] else '.' :: ds.drop 1) ++
    'e' :: (if expo < 0 then '-' else '+') :: (List.replicate (2 - size.length) '0' ++ size)

def text (d : Double) : Text :=
  let body : List Char :=
    match d.magnitude with
    | .notANumber => ['n', 'a', 'n']
    | .infinite => ['i', 'n', 'f']
    | .finite m q =>
      let (n, e) := shortest m q
      let all := Nat.toDigits 10 n
      let ds := if n = 0 then ['0'] else trimZeros all
      let expo : Int := if n = 0 then 0 else all.length + e - 1
      if -4 ≤ expo ∧ expo < 16 then positional ds (expo + 1) else withExponent ds expo
  let shown := match d.magnitude with
    | .notANumber => body
    | _ => if d.isNegative then '-' :: body else body
  Text.ofChars shown

def digitsValue (ds : List Char) : Nat := ds.foldl (fun n c => 10 * n + (c.toNat - '0'.toNat)) 0

/-- Digits, a point and digits, an exponent: the last two may be left out. -/
def ofUnsigned? (negative : Bool) (t : List Char) : Option Double :=
  let whole := t.takeWhile Char.isDigit
  let afterWhole := t.dropWhile Char.isDigit
  let (frac, rest) := match afterWhole with
    | '.' :: r => (r.takeWhile Char.isDigit, r.dropWhile Char.isDigit)
    | r => ([], r)
  let expo? : Option Int := match rest with
    | [] => some 0
    | c :: r =>
      if c = 'e' || c = 'E' then
        let (minus, ds) := match r with
          | '-' :: ds => (true, ds)
          | '+' :: ds => (false, ds)
          | ds => (false, ds)
        if ds.isEmpty || !ds.all Char.isDigit then none
        else some (if minus then -(digitsValue ds : Int) else digitsValue ds)
      else none
  if whole.isEmpty && frac.isEmpty then none
  else expo?.map fun e => ofDecimal negative (digitsValue (whole ++ frac)) (e - frac.length)

/-- Reads what `text` writes, any other decimal in ASCII digits, and the words for infinity and
for what is not a number in any letter case. -/
def ofText? (t : List Char) : Option Double :=
  let (negative, body) := match t with
    | '-' :: r => (true, r)
    | '+' :: r => (false, r)
    | r => (false, r)
  match String.ofList (body.map Char.toLower) with
  | "inf" | "infinity" => some (infinity negative)
  | "nan" => some notANumber
  | _ => ofUnsigned? negative body

/-- What is not a number, as it comes from an origin; any other double as it is. -/
def withOrigin (origin : Nat) (d : Double) : Double := if d.isNaN then nan origin else d

end SceneBook.Double
