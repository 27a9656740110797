import SceneBook.Number.Spelled
import SceneBook.Value.Scalar
import SceneBook.Yaml.Cursor

/-!
# Kinds of YAML nodes

A node has the kind that its tag states. A scalar without a tag is of the kind that it looks like:
a number in one of several bases, a date, a truth value, nothing, or a text.
-/

namespace SceneBook.Yaml

inductive Kind
  | null
  | bool
  | int
  | float
  | timestamp
  | text
  | binary
  | sequence
  | mapping
  | set
  /-- A sequence of entries, each a mapping of its own. -/
  | pairs
  /-- The key whose value is a mapping to be merged in. -/
  | merge
  /-- The equals sign, which is a key and nothing else. -/
  | equals
  /-- Any other kind. No value is of it. -/
  | other
  deriving DecidableEq

namespace Kind

def ofTag (tag : List Char) : Kind :=
  match String.ofList tag with
  | "tag:yaml.org,2002:null" => .null
  | "tag:yaml.org,2002:bool" => .bool
  | "tag:yaml.org,2002:int" => .int
  | "tag:yaml.org,2002:float" => .float
  | "tag:yaml.org,2002:timestamp" => .timestamp
  | "tag:yaml.org,2002:str" => .text
  | "tag:yaml.org,2002:binary" => .binary
  | "tag:yaml.org,2002:seq" => .sequence
  | "tag:yaml.org,2002:map" => .mapping
  | "tag:yaml.org,2002:set" => .set
  | "tag:yaml.org,2002:omap" => .pairs
  | "tag:yaml.org,2002:pairs" => .pairs
  | "tag:yaml.org,2002:merge" => .merge
  | "tag:yaml.org,2002:value" => .equals
  | _ => .other

end Kind

def splitAt (sep : Char) : List Char → List (List Char)
  | [] => [[]]
  | c :: cs =>
    if c = sep then [] :: splitAt sep cs
    else match splitAt sep cs with
      | [] => [[c]]
      | f :: fs => (c :: f) :: fs

def isDigitOrGap (c : Char) : Bool := c.isDigit || c = '_'

def isWhole : List Char → Bool
  | [] => false
  | c :: cs => c.isDigit && cs.all isDigitOrGap

def isSixtieth : List Char → Bool
  | [d] => d.isDigit
  | [t, d] => '0' ≤ t && t ≤ '5' && d.isDigit
  | _ => false

def isExponent : List Char → Bool
  | [] => true
  | e :: s :: ds =>
    (e = 'e' || e = 'E') && (s = '-' || s = '+') && !ds.isEmpty && ds.all Char.isDigit
  | _ => false

def isFractionEnd (t : List Char) : Bool := isExponent (t.dropWhile isDigitOrGap)

def trueWords : List String := ["yes", "Yes", "YES", "true", "True", "TRUE", "on", "On", "ON"]

def falseWords : List String := ["no", "No", "NO", "false", "False", "FALSE", "off", "Off", "OFF"]

def nullWords : List String := ["", "~", "null", "Null", "NULL"]

/-- Marks of the format itself, which are of no kind that has a value. -/
def bareMarks : List String := ["!", "&", "*"]

def looksFloat (t : List Char) : Bool :=
  let body := (Text.unsigned t).2
  let whole := body.takeWhile fun c => c ≠ '.'
  match body.dropWhile fun c => c ≠ '.' with
  | [] => false
  | _ :: frac =>
    (isWhole whole && isFractionEnd frac) ||
      (t.head? = some '.' && frac.head?.any Char.isDigit && isFractionEnd frac) ||
      (match splitAt ':' whole with
        | w :: p :: ps => isWhole w && (p :: ps).all isSixtieth && frac.all isDigitOrGap
        | _ => false) ||
      ["." ++ "inf", ".Inf", ".INF"].contains (String.ofList body) ||
      [".nan", ".NaN", ".NAN"].contains (String.ofList t)

def looksInt (t : List Char) : Bool :=
  match (Text.unsigned t).2 with
  | ['0'] => true
  | '0' :: 'b' :: ds => !ds.isEmpty && ds.all fun c => c = '0' || c = '1' || c = '_'
  | '0' :: 'x' :: ds => !ds.isEmpty && ds.all fun c => (Text.hexValue? c).isSome || c = '_'
  | '0' :: ds => ds.all fun c => ('0' ≤ c && c ≤ '7') || c = '_'
  | body =>
    match splitAt ':' body with
    | w :: ps => isWhole w && w.head? ≠ some '0' && ps.all isSixtieth
    | [] => false

def twoDigits? : List Char → Option (Nat × List Char)
  | a :: b :: t =>
    if a.isDigit && b.isDigit then some ((a.toNat - 48) * 10 + (b.toNat - 48), t) else none
  | _ => none

def shortNumber? (t : List Char) : Option (Nat × List Char) :=
  match twoDigits? t with
  | some r => some r
  | none => match t with
    | a :: t => if a.isDigit then some (a.toNat - 48, t) else none
    | [] => none

def expect? (c : Char) : List Char → Option (List Char)
  | d :: t => if c = d then some t else none
  | [] => none

def offset? (t : List Char) : Option (Option Int) :=
  if t.isEmpty then some none
  else match t.dropWhile isSpaceOrTab with
    | ['Z'] => some (some 0)
    | s :: rest =>
      if s = '-' || s = '+' then do
        let (h, rest) ← shortNumber? rest
        let m ← match rest with
          | [] => some 0
          | ':' :: rest => (twoDigits? rest).bind fun r => if r.2.isEmpty then some r.1 else none
          | _ => none
        let total : Int := h * 60 + m
        pure (some (if s = '-' then -total else total))
      else none
    | [] => none

def micros (ds : List Char) : Nat :=
  ((ds ++ List.replicate 6 '0').take 6).foldl (fun n c => 10 * n + (c.toNat - 48)) 0

def time? (d : Date) (t : List Char) : Option Instant := do
  let t ← match t with
    | 'T' :: t | 't' :: t => some t
    | c :: t => if isSpaceOrTab c then some (t.dropWhile isSpaceOrTab) else none
    | [] => none
  let (hour, t) ← shortNumber? t
  let t ← expect? ':' t
  let (minute, t) ← twoDigits? t
  let t ← expect? ':' t
  let (second, t) ← twoDigits? t
  let (frac, t) := match t with
    | '.' :: t => (t.takeWhile Char.isDigit, t.dropWhile Char.isDigit)
    | t => ([], t)
  let zone ← offset? t
  pure ⟨d, hour, minute, second, micros frac, zone⟩

def timestamp? (t : List Char) : Option Scalar := do
  let (hi, rest) ← twoDigits? t
  let (lo, rest) ← twoDigits? rest
  let rest ← expect? '-' rest
  let (month, rest) ← shortNumber? rest
  let rest ← expect? '-' rest
  let (day, rest) ← shortNumber? rest
  let d : Date := ⟨hi * 100 + lo, month, day⟩
  if rest.isEmpty then some (.date d) else (time? d rest).map .instant

/-- Whether a text looks like a date. Alone, a date has all its leading zeros. -/
def looksTimestamp (t : List Char) : Bool :=
  match timestamp? t with
  | some (.date _) => t.length = 10
  | some _ => true
  | none => false

def chars? (t : Text) : Option (List Char) :=
  t.mapM fun
    | .scalar c => some c
    | .surrogate _ => none

/-- What looks like something else than a text may be followed by one line feed. -/
def withoutFinalBreak (t : List Char) : List Char :=
  if 1 < t.length && t.getLast? = some '\n' then t.dropLast else t

namespace Kind

def ofWord (t : List Char) : Kind :=
  let word := String.ofList t
  if trueWords.contains word || falseWords.contains word then .bool
  else if looksFloat t then .float
  else if looksInt t then .int
  else if word = "<<" then .merge
  else if nullWords.contains word then .null
  else if looksTimestamp t then .timestamp
  else if word = "=" then .equals
  else if bareMarks.contains word then .other
  else .text

def ofLook (t : Text) : Kind :=
  match chars? t with
  | some cs => ofWord (withoutFinalBreak cs)
  | none => .text

end Kind

end SceneBook.Yaml
