import SceneBook.Text.Hex

/-!
# JSON strings

Two spellings of a text between double quotes: one in printable ASCII alone, and one that keeps
every character a JSON string may hold as it is.
-/

namespace SceneBook.Text

/-- The two-character escapes both spellings share. -/
def shortEscape? (c : CodePoint) : Option Text :=
  match c with
  | .scalar '"' => some "\\\""
  | .scalar '\\' => some "\\\\"
  | .scalar '\n' => some "\\n"
  | .scalar '\r' => some "\\r"
  | .scalar '\t' => some "\\t"
  | .scalar '\x08' => some "\\b"
  | .scalar '\x0c' => some "\\f"
  | _ => none

def unitEscape (n : Nat) : Text := "\\u" ++ hex 4 n

/-- One code point in printable ASCII: above `0xFFFF` as a pair of 16-bit units. -/
def asciiPoint (c : CodePoint) : Text :=
  match shortEscape? c with
  | some t => t
  | none =>
    let n := c.code
    if 0x20 ≤ n ∧ n < 0x7F then [c]
    else if n < 0x10000 then unitEscape n
    else unitEscape (0xD800 + (n - 0x10000) / 0x400) ++ unitEscape (0xDC00 + (n - 0x10000) % 0x400)

def asciiJson (t : Text) : Text := .scalar '"' :: t.spell asciiPoint ++ [.scalar '"']

/-- One code point, escaped only where JSON demands it; a lone surrogate has no such spelling. -/
def plainPoint? (c : CodePoint) : Option Text :=
  if c.isSurrogate then none
  else match shortEscape? c with
    | some t => some t
    | none => some (if c.code < 0x20 then unitEscape c.code else [c])

def plainJson? (t : Text) : Option Text :=
  (t.mapM plainPoint?).map fun parts => .scalar '"' :: parts.flatten ++ [.scalar '"']

end SceneBook.Text
