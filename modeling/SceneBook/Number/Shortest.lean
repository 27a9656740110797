import SceneBook.Number.Double

/-!
# Shortest decimals

The fewest decimal digits that still round to a given double, and of those the nearest. All
arithmetic is on whole numbers: the doubles next to `m * 2 ^ q` bound the decimals that read back.
-/

namespace SceneBook.Double

/-- The decimals that round to `m * 2 ^ q`, as `low/den ≤ value/den ≤ high/den`; the ends belong
to the range when `m` is even. Below a power of two the next double is half as far. -/
structure Basin where
  low : Nat
  value : Nat
  high : Nat
  den : Nat
  closed : Bool

def basin (m : Nat) (q : Int) : Basin :=
  let below := if m = Nat.pow 2 52 ∧ -1074 < q then 1 else 2
  let up := if 2 ≤ q then Nat.pow 2 (q - 2).toNat else 1
  let den := if 2 ≤ q then 1 else Nat.pow 2 (2 - q).toNat
  ⟨(4 * m - below) * up, 4 * m * up, (4 * m + 2) * up, den, m % 2 = 0⟩

def Basin.holds (b : Basin) (n : Nat) (e : Int) : Bool :=
  let left := n * (if 0 ≤ e then Nat.pow 10 e.toNat else 1) * b.den
  let by10 := if 0 ≤ e then 1 else Nat.pow 10 (-e).toNat
  if b.closed then b.low * by10 ≤ left ∧ left ≤ b.high * by10
  else b.low * by10 < left ∧ left < b.high * by10

/-- The largest `e` with `10 ^ e ≤ value`, for a value above zero. -/
def Basin.floorLog10 (b : Basin) : Int :=
  ((Nat.toDigits 10 (b.value * Nat.pow 10 400 / b.den)).length : Int) - 401

/-- The two neighbours of the value on the grid of multiples of `10 ^ e`, nearer one first. -/
def Basin.neighbours (b : Basin) (e : Int) : Nat × Nat :=
  let num := if 0 ≤ e then b.value else b.value * Nat.pow 10 (-e).toNat
  let den := if 0 ≤ e then b.den * Nat.pow 10 e.toNat else b.den
  let n := num / den
  let r := num % den
  if 2 * r < den ∨ (2 * r = den ∧ n % 2 = 0) then (n, n + 1) else (n + 1, n)

/-- The first grid, coarsest first, with a neighbour in the range. -/
def Basin.firstHit (b : Basin) (top : Int) : List Nat → Nat × Int
  | [] => (0, 0)
  | k :: rest =>
    let e := top - k
    let (near, far) := b.neighbours e
    if b.holds near e then (near, e)
    else if b.holds far e then (far, e)
    else b.firstHit top rest

/-- Digits `n` and exponent `e` of the shortest decimal `n * 10 ^ e` of `m * 2 ^ q`. -/
def shortest (m : Nat) (q : Int) : Nat × Int :=
  if m = 0 then (0, 0)
  else
    let b := basin m q
    b.firstHit b.floorLog10 (List.range 18)

end SceneBook.Double
