/-!
# Base 64

Bytes written with sixty-four characters, four for three bytes. Other characters between them say
nothing, and the padding at the end may only fill up the last four.
-/

namespace SceneBook.Text

def base64Value? (c : Char) : Option Nat :=
  if 'A' ≤ c ∧ c ≤ 'Z' then some (c.toNat - 'A'.toNat)
  else if 'a' ≤ c ∧ c ≤ 'z' then some (c.toNat - 'a'.toNat + 26)
  else if '0' ≤ c ∧ c ≤ '9' then some (c.toNat - '0'.toNat + 52)
  else if c = '+' then some 62
  else if c = '/' then some 63
  else none

/-- The bytes of what follows, where `place` characters of the last four have been read, `kept` are
the bits of the last one that belong to the next byte, and `pads` follow it as padding. -/
def base64From? (place kept pads : Nat) : List Char → Option (List Nat)
  | [] => if place = 0 then some [] else none
  | c :: rest =>
    if c = '=' then
      if place < 2 then base64From? place kept pads rest
      else if 4 ≤ place + pads + 1 then some []
      else base64From? place kept (pads + 1) rest
    else match base64Value? c with
      | none => base64From? place kept pads rest
      | some v =>
        match place with
        | 0 => base64From? 1 v 0 rest
        | 1 => (base64From? 2 (v % 16) 0 rest).map ((kept * 4 + v / 16) :: ·)
        | 2 => (base64From? 3 (v % 4) 0 rest).map ((kept * 16 + v / 4) :: ·)
        | _ => (base64From? 0 0 0 rest).map ((kept * 64 + v) :: ·)

def base64? (cs : List Char) : Option (List Nat) := base64From? 0 0 0 cs

end SceneBook.Text
