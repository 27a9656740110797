import SceneBook.Text.CodePoint

/-!
# Bytes of a text

UTF-8, extended to lone surrogates by their three-byte form, so that every text has bytes. Read
back are only the bytes of characters, each in its shortest form.
-/

namespace SceneBook

/-- The bytes of one code point; a surrogate takes three. -/
def CodePoint.bytes (c : CodePoint) : List Nat :=
  let n := c.code
  if n < 0x80 then [n]
  else if n < 0x800 then [0xC0 + n / 0x40, 0x80 + n % 0x40]
  else if n < 0x10000 then [0xE0 + n / 0x1000, 0x80 + n / 0x40 % 0x40, 0x80 + n % 0x40]
  else [0xF0 + n / 0x40000, 0x80 + n / 0x1000 % 0x40, 0x80 + n / 0x40 % 0x40, 0x80 + n % 0x40]

namespace Text

def bytes (t : Text) : List Nat := t.flatMap CodePoint.bytes

/-- The characters of bytes, where `more` bytes are still to come for the character that has begun
with `value`, and that character has to be at least `least`. -/
def charsFrom? (more value least : Nat) : List Nat → Option (List Char)
  | [] => if more = 0 then some [] else none
  | b :: rest =>
    if more = 0 then
      if b < 0x80 then (charsFrom? 0 0 0 rest).map (Char.ofNat b :: ·)
      else if b < 0xC0 then none
      else if b < 0xE0 then charsFrom? 1 (b - 0xC0) 0x80 rest
      else if b < 0xF0 then charsFrom? 2 (b - 0xE0) 0x800 rest
      else if b < 0xF8 then charsFrom? 3 (b - 0xF0) 0x10000 rest
      else none
    else if b < 0x80 || 0xC0 ≤ b then none
    else
      let value := value * 0x40 + (b - 0x80)
      if more ≠ 1 then charsFrom? (more - 1) value least rest
      else match CodePoint.ofNat? value with
        | some (.scalar c) => if value < least then none else (charsFrom? 0 0 0 rest).map (c :: ·)
        | _ => none

def chars? (bs : List Nat) : Option (List Char) := charsFrom? 0 0 0 bs

/-- Whether the text is made of characters alone, and so can be stored as UTF-8. -/
def isStorable (t : Text) : Bool := t.all fun c => !c.isSurrogate

end Text

end SceneBook
