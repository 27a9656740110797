import SceneBook.Text.CodePoint

/-!
# Hexadecimal numbers

Numbers in base sixteen with lower-case digits and a fixed width, and the value of one digit.
-/

namespace SceneBook.Text

def hexDigit (n : Nat) : CodePoint := .scalar (Nat.digitChar n)

def hex (width n : Nat) : Text :=
  (List.range width).reverse.map fun i => hexDigit (n / Nat.pow 16 i % 16)

def hexValue? (c : Char) : Option Nat :=
  if '0' ≤ c ∧ c ≤ '9' then some (c.toNat - '0'.toNat)
  else if 'a' ≤ c ∧ c ≤ 'f' then some (c.toNat - 'a'.toNat + 10)
  else if 'A' ≤ c ∧ c ≤ 'F' then some (c.toNat - 'A'.toNat + 10)
  else none

end SceneBook.Text
