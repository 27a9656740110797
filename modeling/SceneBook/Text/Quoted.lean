import SceneBook.Text.Hex
import SceneBook.Text.Printable

/-!
# Quoted text

How a text is shown inside a message: between single quotes, or between double quotes when it
holds a single quote and no double one. What cannot be printed is written as an escape.
-/

namespace SceneBook.Text

/-- The quote that needs the fewer escapes; the single one when both need some. -/
def quoteFor (t : Text) : CodePoint :=
  if t.contains (.scalar '\'') && !t.contains (.scalar '"') then '"' else '\''

/-- The escape of a code point by its number, in the shortest of the three widths. -/
def numberEscape (n : Nat) : Text :=
  if n < 0x100 then "\\x" ++ hex 2 n
  else if n < 0x10000 then "\\u" ++ hex 4 n
  else "\\U" ++ hex 8 n

def quotedPoint (quote c : CodePoint) : Text :=
  if c = quote || c = .scalar '\\' then ['\\', c]
  else if c = .scalar '\t' then "\\t"
  else if c = .scalar '\n' then "\\n"
  else if c = .scalar '\r' then "\\r"
  else if c.isPrintable then [c]
  else numberEscape c.code

def quoted (t : Text) : Text :=
  let quote := quoteFor t
  quote :: t.spell (quotedPoint quote) ++ [quote]

end SceneBook.Text
