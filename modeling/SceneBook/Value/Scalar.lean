import SceneBook.Number.Written
import SceneBook.Text.Quoted

/-!
# Scalars

The values without parts, which are also the keys of mappings. As keys, numbers and truth values
are compared by value, so that one, one point zero and true are the same key.
-/

namespace SceneBook

structure Date where
  year : Nat
  month : Nat
  day : Nat
  deriving DecidableEq

/-- A date with a time of day; the offset from universal time is in minutes. -/
structure Instant where
  date : Date
  hour : Nat
  minute : Nat
  second : Nat
  micro : Nat
  offset : Option Int
  deriving DecidableEq

inductive Scalar
  | null
  | bool (b : Bool)
  | int (i : Int)
  | float (d : Double)
  | text (t : Text)
  | date (d : Date)
  | instant (i : Instant)
  | bytes (bs : List Nat)
  deriving DecidableEq

def Text.padded (width n : Nat) : Text :=
  let ds := Text.ofNat n
  List.replicate (width - ds.length) (.scalar '0') ++ ds

namespace Date

def text (d : Date) : Text :=
  Text.padded 4 d.year ++ "-" ++ Text.padded 2 d.month ++ "-" ++ Text.padded 2 d.day

def isLeap (year : Nat) : Bool := year % 4 = 0 && (year % 100 ≠ 0 || year % 400 = 0)

def daysIn (year month : Nat) : Nat :=
  if month = 2 then if isLeap year then 29 else 28
  else if month = 4 || month = 6 || month = 9 || month = 11 then 30
  else 31

def isValid (d : Date) : Bool :=
  1 ≤ d.year && 1 ≤ d.month && d.month ≤ 12 && 1 ≤ d.day && d.day ≤ daysIn d.year d.month

/-- How many days lie between the first day of the first month of the year one and a date. -/
def dayNumber (d : Date) : Nat :=
  let years := d.year - 1
  let leaps := years / 4 - years / 100 + years / 400
  let before := (List.range (d.month - 1)).foldl (fun n m => n + daysIn d.year (m + 1)) 0
  365 * years + leaps + before + (d.day - 1)

def shown (d : Date) : Text :=
  "datetime.date(" ++ Text.ofNat d.year ++ ", " ++ Text.ofNat d.month ++ ", " ++
    Text.ofNat d.day ++ ")"

end Date

namespace Instant

def isValid (i : Instant) : Bool :=
  i.date.isValid && i.hour < 24 && i.minute < 60 && i.second < 60 &&
    (match i.offset with
      | none => true
      | some m => m.natAbs < 1440)

def offsetText : Option Int → Text
  | none => []
  | some m =>
    .scalar (if m < 0 then '-' else '+') ::
      (Text.padded 2 (m.natAbs / 60) ++ ":" ++ Text.padded 2 (m.natAbs % 60))

def text (sep : Char) (i : Instant) : Text :=
  let fraction : Text := if i.micro = 0 then [] else "." ++ Text.padded 6 i.micro
  i.date.text ++ ([.scalar sep] : Text) ++ Text.padded 2 i.hour ++ ":" ++
    Text.padded 2 i.minute ++ ":" ++
    Text.padded 2 i.second ++ fraction ++ offsetText i.offset

def offsetShown : Option Int → Text
  | none => []
  | some m =>
    if m = 0 then ", tzinfo=datetime.timezone.utc"
    else
      let days : Text := if m < 0 then "days=-1, " else []
      let seconds := if m < 0 then 86400 + m * 60 else m * 60
      ", tzinfo=datetime.timezone(datetime.timedelta(" ++ days ++ "seconds=" ++
        Text.ofInt seconds ++ "))"

def shown (i : Instant) : Text :=
  let fields := [i.date.year, i.date.month, i.date.day, i.hour, i.minute] ++
    (if i.micro ≠ 0 then [i.second, i.micro] else if i.second ≠ 0 then [i.second] else [])
  "datetime.datetime(" ++ Text.join ", " (fields.map Text.ofNat) ++ offsetShown i.offset ++ ")"

def localMinutes (i : Instant) : Int := i.date.dayNumber * 1440 + i.hour * 60 + i.minute

/-- Two instants with an offset are the same when they are at the same moment; one without an
offset is only the same as itself. -/
def same (i j : Instant) : Bool :=
  match i.offset, j.offset with
  | some p, some q =>
    i.localMinutes - p = j.localMinutes - q && i.second = j.second && i.micro = j.micro
  | _, _ => i = j

end Instant

namespace Scalar

/-- The representative of the scalars that are one key. -/
def canon : Scalar → Scalar
  | .bool b => .int (if b then 1 else 0)
  | .float d => match d.toInt? with
    | some i => .int i
    | none => .float d
  | s => s

/-- Whether two scalars are one key. -/
def same : Scalar → Scalar → Bool
  | .instant i, .instant j => i.same j
  | a, b => a.canon = b.canon

def isTruthy : Scalar → Bool
  | .null => false
  | .bool b => b
  | .int i => i ≠ 0
  | .float d => !d.isZero
  | .text t => !t.isEmpty
  | .date _ => true
  | .instant _ => true
  | .bytes bs => !bs.isEmpty

def byteShown (quote n : Nat) : Text :=
  if n = 0x09 then "\\t" else if n = 0x0A then "\\n" else if n = 0x0D then "\\r"
  else if n < 0x20 || 0x7F ≤ n then "\\x" ++ Text.hex 2 n
  else if n = quote || n = 0x5C then ['\\', Char.ofNat n]
  else [.scalar (Char.ofNat n)]

/-- Bytes as they are shown: quoted like a text, with a letter before the quote. -/
def bytesShown (bs : List Nat) : Text :=
  let quote := if bs.contains 0x27 && !bs.contains 0x22 then 0x22 else 0x27
  let mark : Text := [.scalar (Char.ofNat quote)]
  "b" ++ mark ++ bs.flatMap (byteShown quote) ++ mark

/-- The scalar as it stands inside a list or a mapping that is shown. -/
def shown : Scalar → Text
  | .null => "None"
  | .bool b => if b then "True" else "False"
  | .int i => Text.ofInt i
  | .float d => d.text
  | .text t => t.quoted
  | .date d => d.shown
  | .instant i => i.shown
  | .bytes bs => bytesShown bs

/-- The scalar as it stands alone in a message: text and dates are not quoted. -/
def plain : Scalar → Text
  | .text t => t
  | .date d => d.text
  | .instant i => i.text ' '
  | s => s.shown

def kindName : Scalar → Text
  | .null => "NoneType"
  | .bool _ => "bool"
  | .int _ => "int"
  | .float _ => "float"
  | .text _ => "str"
  | .date _ => "date"
  | .instant _ => "datetime"
  | .bytes _ => "bytes"

end Scalar

end SceneBook
