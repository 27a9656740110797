import SceneBook.Text.Blank
import SceneBook.Text.Word

/-!
# Openings

How a definition begins. A fragment is inspected only up to the end of its opening: a keyword
with the name it declares, or an opening tag. These are patterns of one group; a host may bring
others, of which nothing is known but what they match.
-/

namespace SceneBook

/-- What a pattern has matched at the start of a text: all of it, and its groups in their order. A
group that took no part in it has no text. -/
structure Match where
  whole : Text
  groups : List (Option Text)

abbrev Pattern := Text → Option Match

inductive Opening
  /-- Blanks, the word, at least one blank, and a name of word characters. -/
  | keyword (word : Text)
  /-- Blanks and an opening tag of one of the names, which are given in lower-case ASCII. -/
  | tag (names : List Text)
  deriving DecidableEq

/-- What an opening has found: all of it, and the declared name or the tag name in it. -/
structure Capture where
  whole : Text
  name : Text
  deriving DecidableEq

namespace Opening

def readKeyword (word code : Text) : Option Capture := do
  let lead := code.takeWhile CodePoint.isBlank
  let rest ← Text.dropPrefix? word (code.dropWhile CodePoint.isBlank)
  let gap := rest.takeWhile CodePoint.isBlank
  let name := (rest.dropWhile CodePoint.isBlank).takeWhile CodePoint.isWord
  if gap.isEmpty || name.isEmpty then none
  else some ⟨lead ++ word ++ gap ++ name, name⟩

/-- Whether `c` is a lower-case ASCII letter ignoring case; the long s is an s. -/
def isCaseOf (letter c : CodePoint) : Bool :=
  c = letter || c.code + 32 = letter.code || (letter = .scalar 's' && c = .scalar '\u017F')

/-- A name at the start of a text as it is written there, and what follows it. -/
def takeName? : Text → Text → Option (Text × Text)
  | [], t => some ([], t)
  | _ :: _, [] => none
  | p :: ps, c :: cs =>
    if isCaseOf p c then (takeName? ps cs).map fun (written, rest) => (c :: written, rest)
    else none

def endsName (c : CodePoint) : Bool := c.isBlank || c = .scalar '/' || c = .scalar '>'

def readTag (names : List Text) (code : Text) : Option Capture :=
  let lead := code.takeWhile CodePoint.isBlank
  match code.dropWhile CodePoint.isBlank with
  | [] => none
  | c :: inner =>
    if c ≠ .scalar '<' then none
    else names.findSome? fun name => do
      let (written, rest) ← takeName? name inner
      let body := rest.takeWhile fun c => c ≠ .scalar '>'
      let final ← (rest.drop body.length).head?
      if rest.head?.any endsName then some ⟨lead ++ [c] ++ written ++ body ++ [final], written⟩
      else none

def read : Opening → Text → Option Capture
  | .keyword word, code => readKeyword word code
  | .tag names, code => readTag names code

/-- The opening as a pattern whose group is the name. -/
def pattern (o : Opening) : Pattern := fun code =>
  (o.read code).map fun c => ⟨c.whole, [some c.name]⟩

end Opening

end SceneBook
