import SceneBook.Text.CodePoint
import SceneBook.Text.Ranges

/-!
# Blanks

The Unicode white space characters together with the four information separators. Fragments,
names and tags are trimmed and split by this class.
-/

namespace SceneBook

def blankRanges : List (Nat × Nat) := [
  (0x9, 0xD), (0x1C, 0x20), (0x85, 0x85), (0xA0, 0xA0), (0x1680, 0x1680), (0x2000, 0x200A),
  (0x2028, 0x2029), (0x202F, 0x202F), (0x205F, 0x205F), (0x3000, 0x3000)]

def CodePoint.isBlank (c : CodePoint) : Bool := Text.inRanges blankRanges c.code

namespace Text

def skipBlanks (t : Text) : Text := t.dropWhile CodePoint.isBlank

def strip (t : Text) : Text := (skipBlanks (skipBlanks t).reverse).reverse

def isBlank (t : Text) : Bool := t.all CodePoint.isBlank

/-- The words of `rest`, where `seen` is the word being read, last character first. -/
def wordsAfter (seen : Text) : Text → List Text
  | [] => if seen.isEmpty then [] else [seen.reverse]
  | c :: rest =>
    if c.isBlank then
      if seen.isEmpty then wordsAfter [] rest else seen.reverse :: wordsAfter [] rest
    else wordsAfter (c :: seen) rest

def words (t : Text) : List Text := wordsAfter [] t

end Text

end SceneBook
