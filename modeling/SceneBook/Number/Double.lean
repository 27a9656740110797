/-!
# Doubles

A double is kept as its 64 bits, so that doubles can be told apart exactly. The bits decode into
a whole number times a power of two, and a quotient of whole numbers rounds to the nearest double.
-/

namespace SceneBook

structure Double where
  bits : UInt64
  deriving DecidableEq

namespace Double

/-- What the bits stand for, the sign aside. A finite double is `m * 2 ^ q`. -/
inductive Magnitude
  | notANumber
  | infinite
  | finite (m : Nat) (q : Int)
  deriving DecidableEq

def isNegative (d : Double) : Bool := d.bits ≥ 0x8000000000000000

def magnitude (d : Double) : Magnitude :=
  let rest : Nat := d.bits.toNat % Nat.pow 2 63
  let expo : Nat := rest / Nat.pow 2 52
  let frac : Nat := rest % Nat.pow 2 52
  if expo = 0x7FF then if frac = 0 then .infinite else .notANumber
  else if expo = 0 then .finite frac (-1074)
  else .finite (Nat.pow 2 52 + frac) ((expo : Int) - 1075)

def signed (negative : Bool) (rest : Nat) : Double :=
  ⟨UInt64.ofNat (if negative then Nat.pow 2 63 + rest else rest)⟩

def infinity (negative : Bool) : Double := signed negative (0x7FF * Nat.pow 2 52)

/-- Not a number, with an origin in its lowest bits: what two computations have left is told
apart by it, where the kind alone is not enough. -/
def nan (origin : Nat) : Double := signed false (0x7FF8 * Nat.pow 2 48 + origin % Nat.pow 2 51)

def notANumber : Double := nan 0

/-- `num / den` rounded to a whole number, a half going to the even neighbour. -/
def roundHalfEven (num den : Nat) : Nat :=
  let q := num / den
  let r := num % den
  if 2 * r < den then q else if 2 * r > den then q + 1 else q + q % 2

/-- `num / den * 2 ^ (-q)` as a quotient of whole numbers. -/
def scaled (num den : Nat) (q : Int) : Nat × Nat :=
  if 0 ≤ q then (num, den * Nat.pow 2 q.toNat) else (num * Nat.pow 2 (-q).toNat, den)

/-- The largest `e` with `2 ^ e ≤ num / den`, for `num` and `den` above zero. -/
def floorLog2 (num den : Nat) : Int :=
  let e : Int := (num.log2 : Int) - den.log2
  let (n, d) := scaled num den e
  if d ≤ n then e else e - 1

/-- The double nearest to a quotient, a tie going to the even one; too large becomes infinite. -/
def ofRatio (negative : Bool) (num den : Nat) : Double :=
  if num = 0 then signed negative 0
  else
    let q : Int := max (floorLog2 num den - 52) (-1074)
    let (n, d) := scaled num den q
    let m := roundHalfEven n d
    let rest := if m < Nat.pow 2 52 then m else (q + 1074).toNat * Nat.pow 2 52 + m
    if 0x7FF * Nat.pow 2 52 ≤ rest then infinity negative else signed negative rest

/-- The double nearest to `digits * 10 ^ expo`. Exponents far outside the range of doubles are
decided by size alone. -/
def ofDecimal (negative : Bool) (digits : Nat) (expo : Int) : Double :=
  let size : Int := (Nat.toDigits 10 digits).length + expo
  if digits = 0 ∨ size < -400 then signed negative 0
  else if 400 < size then infinity negative
  else if 0 ≤ expo then ofRatio negative (digits * Nat.pow 10 expo.toNat) 1
  else ofRatio negative digits (Nat.pow 10 (-expo).toNat)

def ofInt (i : Int) : Double := ofRatio (i < 0) i.natAbs 1

def isZero (d : Double) : Bool :=
  match d.magnitude with
  | .finite 0 _ => true
  | _ => false

def isFinite (d : Double) : Bool :=
  match d.magnitude with
  | .finite .. => true
  | _ => false

def toInt? (d : Double) : Option Int :=
  match d.magnitude with
  | .finite m q =>
    let size? : Option Nat :=
      if 0 ≤ q then some (m * Nat.pow 2 q.toNat)
      else if m % Nat.pow 2 (-q).toNat = 0 then some (m / Nat.pow 2 (-q).toNat)
      else none
    size?.map fun n => if d.isNegative then -(n : Int) else n
  | _ => none

/-- A finite double without its sign, as a quotient of whole numbers. -/
def fraction? (d : Double) : Option (Nat × Nat) :=
  match d.magnitude with
  | .finite m q => some (if 0 ≤ q then (m * Nat.pow 2 q.toNat, 1) else (m, Nat.pow 2 (-q).toNat))
  | _ => none

def isNaN (d : Double) : Bool := d.magnitude = .notANumber

def mul (a b : Double) : Double :=
  let negative := a.isNegative != b.isNegative
  match a.fraction?, b.fraction? with
  | some (n, d), some (n', d') => ofRatio negative (n * n') (d * d')
  | _, _ => if a.isNaN || b.isNaN || a.isZero || b.isZero then notANumber else infinity negative

def signedNumerator (negative : Bool) (n : Nat) : Int := if negative then -(n : Int) else n

/-- The sum, rounded once; a sum of zero is negative only when both terms are. -/
def add (a b : Double) : Double :=
  match a.fraction?, b.fraction? with
  | some (n, d), some (n', d') =>
    let num := signedNumerator a.isNegative (n * d') + signedNumerator b.isNegative (n' * d)
    if num = 0 then signed (a.isNegative && b.isNegative) 0
    else ofRatio (num < 0) num.natAbs (d * d')
  | none, some _ => a
  | some _, none => b
  | none, none => if a = b then a else notANumber

def neg (d : Double) : Double := ⟨d.bits ^^^ 0x8000000000000000⟩

def sub (a b : Double) : Double := add a (neg b)

end Double

end SceneBook
