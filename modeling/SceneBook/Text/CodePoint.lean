/-!
# Code points and text

Text is a list of code points. A code point is a character, or a surrogate that stands
alone: escapes in documents can spell one, and a digest still has to tell it apart.
-/

namespace SceneBook

/-- Half of a pair of 16-bit units, standing alone. -/
structure Surrogate where
  code : Nat
  inRange : 0xD800 ≤ code ∧ code < 0xE000
  deriving DecidableEq

inductive CodePoint
  | scalar (c : Char)
  | surrogate (s : Surrogate)
  deriving DecidableEq

namespace CodePoint

def code : CodePoint → Nat
  | .scalar c => c.toNat
  | .surrogate s => s.code

def ofNat? (n : Nat) : Option CodePoint :=
  if h : 0xD800 ≤ n ∧ n < 0xE000 then some (.surrogate ⟨n, h⟩)
  else if n < 0x110000 then some (.scalar (Char.ofNat n))
  else none

def isSurrogate : CodePoint → Bool
  | .scalar _ => false
  | .surrogate _ => true

instance : Coe Char CodePoint := ⟨.scalar⟩

/-- The order of code points is the order of their numbers. -/
instance : LT CodePoint := ⟨fun a b => a.code < b.code⟩

instance (a b : CodePoint) : Decidable (a < b) := inferInstanceAs (Decidable (a.code < b.code))

end CodePoint

abbrev Text := List CodePoint

namespace Text

def ofChars (cs : List Char) : Text := cs.map .scalar

def ofString (s : String) : Text := ofChars s.toList

instance : Coe String Text := ⟨ofString⟩

def ofNat (n : Nat) : Text := ofChars (Nat.toDigits 10 n)

def ofInt : Int → Text
  | .ofNat n => ofNat n
  | .negSucc n => .scalar '-' :: ofNat (n + 1)

def join (sep : Text) : List Text → Text
  | [] => []
  | [t] => t
  | t :: u :: rest => t ++ sep ++ join sep (u :: rest)

def dropPrefix? : Text → Text → Option Text
  | [], t => some t
  | _ :: _, [] => none
  | p :: ps, c :: cs => if p = c then dropPrefix? ps cs else none

def startsWith (p t : Text) : Bool := (dropPrefix? p t).isSome

/-- Each code point through `f`, the results put one after the other. -/
def spell (f : CodePoint → Text) (t : Text) : Text := t.flatMap f

/-- The fields between occurrences of a separator; one field when there is none. -/
def fields (sep : CodePoint) : Text → List Text
  | [] => [[]]
  | c :: cs =>
    if c = sep then [] :: fields sep cs
    else match fields sep cs with
      | [] => [[c]]
      | f :: fs => (c :: f) :: fs

def before : Text → Text → Bool
  | [], [] => false
  | [], _ :: _ => true
  | _ :: _, [] => false
  | a :: as, b :: bs => if a < b then true else if b < a then false else before as bs

def sort (ts : List Text) : List Text := ts.mergeSort (fun a b => !before b a)

def padRight (width : Nat) (t : Text) : Text := t ++ List.replicate (width - t.length) (.scalar ' ')

/-- The text as a string; a surrogate, which no string holds, becomes the replacement character. -/
def toLossyString (t : Text) : String :=
  String.ofList (t.map fun
    | .scalar c => c
    | .surrogate _ => '\uFFFD')

end Text

end SceneBook
