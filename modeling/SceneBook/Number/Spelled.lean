import SceneBook.Number.Written
import SceneBook.Text.Digit
import SceneBook.Text.Blank
import SceneBook.Text.Hex

/-!
# Spelled numbers

The numbers that texts spell: with blanks around them, a sign, digits of any script and, in a base
other than ten, the letter that announces the base.
-/

namespace SceneBook

/-- A character as it counts in a number: beyond ASCII a blank is a space, a digit is the ASCII
digit of its value, and anything else is a mark that no number has. -/
def CodePoint.numeral (c : CodePoint) : Char :=
  if c.code < 0x7F then Char.ofNat c.code
  else if c.isBlank then ' '
  else match c.digit? with
    | some d => Nat.digitChar d
    | none => '?'

namespace Text

def isNumberGap (c : Char) : Bool := c = ' ' || ('\t' ≤ c && c ≤ '\r')

def numeral (t : Text) : List Char :=
  let cs := (t.map CodePoint.numeral).dropWhile isNumberGap
  (cs.reverse.dropWhile isNumberGap).reverse

def unsigned : List Char → Bool × List Char
  | '-' :: cs => (true, cs)
  | '+' :: cs => (false, cs)
  | cs => (false, cs)

def baseLetter? (base : Nat) : Option Char :=
  match base with
  | 2 => some 'b'
  | 8 => some 'o'
  | 16 => some 'x'
  | _ => none

def withoutBase (base : Nat) : List Char → List Char
  | '0' :: c :: cs => if baseLetter? base = some c.toLower then cs else '0' :: c :: cs
  | cs => cs

/-- The number that digits spell in a base; there has to be one. -/
def natural? (base : Nat) (ds : List Char) : Option Nat :=
  if ds.isEmpty then none
  else ds.foldl (fun n? c => do
    let n ← n?
    let d ← (hexValue? c).filter fun d => d < base
    pure (n * base + d)) (some 0)

/-- Decimals of more digits are neither read nor written. -/
def longestDecimal : Nat := 4300

def integer? (base : Nat) (t : Text) : Option Int :=
  let (negative, cs) := unsigned t.numeral
  let ds := withoutBase base cs
  if base = 10 && longestDecimal < ds.length then none
  else (natural? base ds).map fun n => if negative then -(n : Int) else n

/-- A number is only written when its decimal is not too long. -/
def isWritable (i : Int) : Bool := i.natAbs < Nat.pow 10 longestDecimal

def double? (t : Text) : Option Double := Double.ofText? t.numeral

end Text

end SceneBook
