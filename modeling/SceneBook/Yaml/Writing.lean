import SceneBook.Value.Shown
import SceneBook.Yaml.Kind

/-!
# Writing YAML

A value as a YAML text in block style, the keys of mappings in order. A text stands without quotes
where it reads back as the same text, and otherwise in single quotes or, with escapes, in double
quotes. Long texts are folded at their spaces. Bytes, sets and values that contain themselves, which
settings do not hold, are written as the texts that show them.
-/

namespace SceneBook.Yaml

structure Pen where
  /-- What is written so far, last character first. -/
  written : Text
  column : Nat
  /-- A space or a line start stands before the place. -/
  spaced : Bool
  /-- Nothing but indentation and the marks of entries stands on the line. -/
  indented : Bool

def lineWidth : Nat := 80

structure Traits where
  /-- It can be taken for something else, such as a comment or an entry. -/
  marks : Bool
  breaks : Bool
  special : Bool
  edgeGap : Bool
  spaceAfterBreak : Bool
  spaceBeforeBreak : Bool

inductive Style
  | plain
  | single
  | double
  deriving DecidableEq

namespace Traits

def isPrintableAscii (c : CodePoint) : Bool := 0x20 ≤ c.code && c.code ≤ 0x7E

def isGapPoint (c : CodePoint) : Bool :=
  c = .scalar ' ' || c = .scalar '\t' || c = .scalar '\r' || c = .scalar '\n' || c.code = 0 ||
    c.code = 0x85 || c.code = 0x2028 || c.code = 0x2029

def isBreakPoint (c : CodePoint) : Bool :=
  c = .scalar '\n' || c.code = 0x85 || c.code = 0x2028 || c.code = 0x2029

def isSpacePoint (c : CodePoint) : Bool := c = .scalar ' '

def startMarks : Text := "#,[]\x7b\x7d&*!|>'\"%@\x60"

/-- Whether a text begins with what is not the beginning of a plain scalar. -/
def marksStart (t : Text) : Bool :=
  Text.startsWith "---" t || Text.startsWith "..." t ||
    (match t with
      | [] => false
      | c :: rest =>
        startMarks.contains c ||
          ((c = .scalar '?' || c = .scalar ':' || c = .scalar '-') &&
            (rest.head?.map isGapPoint).getD true))

/-- Whether a colon before a gap or a number sign after a gap stands behind the first character. -/
def marksInside : Text → Bool
  | [] => false
  | [_] => false
  | a :: b :: rest =>
    (b = .scalar ':' && (rest.head?.map isGapPoint).getD true) ||
      (b = .scalar '#' && isGapPoint a) || marksInside (b :: rest)

def meets (p q : CodePoint → Bool) : Text → Bool
  | a :: b :: rest => (p a && q b) || meets p q (b :: rest)
  | _ => false

def of (t : Text) : Traits where
  marks := marksStart t || marksInside t
  breaks := t.any isBreakPoint
  special := t.any fun c => !(c = .scalar '\n' || isPrintableAscii c)
  edgeGap := (t.head?.any fun c => isSpacePoint c || isBreakPoint c) ||
    (t.getLast?.any fun c => isSpacePoint c || isBreakPoint c)
  spaceAfterBreak := meets isBreakPoint isSpacePoint t
  spaceBeforeBreak := meets isSpacePoint isBreakPoint t

def allowsPlain (x : Traits) : Bool :=
  !x.marks && !x.breaks && !x.special && !x.edgeGap && !x.spaceAfterBreak && !x.spaceBeforeBreak

def allowsSingle (x : Traits) : Bool := !x.special && !x.spaceAfterBreak && !x.spaceBeforeBreak

end Traits

/-- The way to write a text; as the key of a mapping it stays on one line. -/
def styleOf (asKey : Bool) (t : Text) : Style :=
  let x := Traits.of t
  if Kind.ofLook t = .text && x.allowsPlain then .plain
  else if x.allowsSingle && !(asKey && x.breaks) then .single
  else .double

namespace Pen

def start : Pen := ⟨[], 0, true, true⟩

def write (p : Pen) (t : Text) : Pen :=
  { p with written := t.reverse ++ p.written, column := p.column + t.length }

def lineBreak (p : Pen) : Pen := ⟨.scalar '\n' :: p.written, 0, true, true⟩

/-- To the start of a line at an indentation; the line may be this one. -/
def indent (p : Pen) (depth : Nat) : Pen :=
  let p := if !p.indented || depth < p.column || (p.column = depth && !p.spaced) then p.lineBreak
    else p
  if p.column < depth then
    { p.write (List.replicate (depth - p.column) (.scalar ' ')) with spaced := true }
  else p

def mark (p : Pen) (t : Text) (needsSpace keepsIndent : Bool) : Pen :=
  let p' := if p.spaced || !needsSpace then p.write t else p.write (.scalar ' ' :: t)
  { p' with spaced := false, indented := p.indented && keepsIndent }

def runs (class' : CodePoint → Nat) : Text → List Text
  | [] => []
  | c :: rest =>
    match runs class' rest with
    | (d :: ds) :: more =>
      if class' c = class' d then (c :: d :: ds) :: more else [c] :: (d :: ds) :: more
    | more => [c] :: more

def gapClass (c : CodePoint) : Nat :=
  if Traits.isSpacePoint c then 1 else if Traits.isBreakPoint c then 2 else 0

def plainRuns (depth : Nat) (fold : Bool) (p : Pen) : List Text → Pen
  | [] => p
  | r :: rest =>
    if r = [.scalar ' '] && lineWidth < p.column && fold then
      plainRuns depth fold { p.indent depth with spaced := false, indented := false } rest
    else plainRuns depth fold (p.write r) rest

def plain (p : Pen) (depth : Nat) (fold : Bool) (t : Text) : Pen :=
  let p := if p.spaced then p else p.write " "
  plainRuns depth fold { p with spaced := false, indented := false } (runs gapClass t)

def doubledQuotes (t : Text) : Text :=
  t.flatMap fun c => if c = .scalar '\'' then "''" else [c]

def lineBreaks : Nat → Pen → Pen
  | 0, p => p
  | n + 1, p => lineBreaks n p.lineBreak

def singleRuns (depth : Nat) (fold : Bool) (p : Pen) (first : Bool) : List Text → Pen
  | [] => p
  | r :: rest =>
    let p :=
      if r.any Traits.isBreakPoint then (lineBreaks (r.length + 1) p).indent depth
      else if r = [.scalar ' '] && lineWidth < p.column && fold && !first && !rest.isEmpty then
        p.indent depth
      else p.write (doubledQuotes r)
    singleRuns depth fold p false rest

def single (p : Pen) (depth : Nat) (fold : Bool) (t : Text) : Pen :=
  (singleRuns depth fold (p.mark "'" true false) true (runs gapClass t)).mark "'" false false

def escapeLetter? (n : Nat) : Option Char :=
  match n with
  | 0x00 => some '0'
  | 0x07 => some 'a'
  | 0x08 => some 'b'
  | 0x09 => some 't'
  | 0x0A => some 'n'
  | 0x0B => some 'v'
  | 0x0C => some 'f'
  | 0x0D => some 'r'
  | 0x1B => some 'e'
  | 0x22 => some '"'
  | 0x5C => some '\\'
  | 0x85 => some 'N'
  | 0xA0 => some '_'
  | 0x2028 => some 'L'
  | 0x2029 => some 'P'
  | _ => none

def upperHex (width n : Nat) : Text :=
  (Text.hex width n).map fun
    | .scalar c => .scalar c.toUpper
    | c => c

def escaped (c : CodePoint) : Text :=
  match escapeLetter? c.code with
  | some l => [.scalar '\\', .scalar l]
  | none =>
    if c.code ≤ 0xFF then "\\x" ++ upperHex 2 c.code
    else if c.code ≤ 0xFFFF then "\\u" ++ upperHex 4 c.code
    else "\\U" ++ upperHex 8 c.code

def needsEscape (c : CodePoint) : Bool :=
  c = .scalar '"' || c = .scalar '\\' || !Traits.isPrintableAscii c

/-- Breaks the line inside double quotes; a space that comes next is escaped. -/
def doubleFold (p : Pen) (depth : Nat) (run : Text) (next : Option CodePoint) : Pen :=
  let p := (p.write (run.reverse ++ [.scalar '\\'])).indent depth
  let p := { p with spaced := false, indented := false }
  if next = some (.scalar ' ') then p.write "\\" else p

/-- The characters of a text in double quotes, where `run` are those read and not yet written,
last one first, and `atStart` tells the first character. -/
def doublePoints (depth : Nat) (fold : Bool) (p : Pen) (run : Text) (atStart : Bool) : Text → Pen
  | [] => p.write run.reverse
  | c :: rest =>
    let mayFold := fold && !atStart && !rest.isEmpty
    if needsEscape c then
      let p := (p.write run.reverse).write (escaped c)
      if mayFold && lineWidth + 1 < p.column then
        doublePoints depth fold (p.doubleFold depth [] rest.head?) [] false rest
      else doublePoints depth fold p [] false rest
    else if mayFold && (c = .scalar ' ' || run.isEmpty) && lineWidth < p.column + run.length then
      doublePoints depth fold (p.doubleFold depth run (some c)) [c] false rest
    else doublePoints depth fold p (c :: run) false rest

def double (p : Pen) (depth : Nat) (fold : Bool) (t : Text) : Pen :=
  (doublePoints depth fold (p.mark "\"" true false) [] true t).mark "\"" false false

def text (p : Pen) (depth : Nat) (asKey : Bool) (t : Text) : Pen :=
  match styleOf asKey t with
  | .plain => p.plain depth (!asKey) t
  | .single => p.single depth (!asKey) t
  | .double => p.double depth (!asKey) t

def floatText (d : Double) : Text :=
  match d.magnitude with
  | .notANumber => ".nan"
  | .infinite => if d.isNegative then "-.inf" else ".inf"
  | .finite .. =>
    let t := d.text
    if t.contains (.scalar 'e') && !t.contains (.scalar '.') then
      t.flatMap fun c => if c = .scalar 'e' then ".0e" else [c]
    else t

def scalar (p : Pen) (depth : Nat) (asKey : Bool) : Scalar → Pen
  | .null => p.plain depth false "null"
  | .bool b => p.plain depth false (if b then "true" else "false")
  | .int i => p.plain depth false (Text.ofInt i)
  | .float d => p.plain depth false (floatText d)
  | .text t => p.text depth asKey t
  | .date d => p.plain depth false d.text
  | .instant i => p.plain depth (!asKey) (i.text ' ')
  | .bytes bs => p.text depth asKey (Scalar.bytesShown bs)

def isSimpleKey : Scalar → Bool
  | .text t => !t.isEmpty && t.length < 123 && !t.any Traits.isBreakPoint
  | _ => true

def keyBefore (a b : Scalar × Value) : Bool :=
  match a.1, b.1 with
  | .text s, .text t => !Text.before t s
  | _, _ => true

mutual

/-- Writes a value inside a block at a depth; at the outermost level that is `-2`. -/
def value (p : Pen) (depth : Int) (afterColon : Bool) : Value → Pen
  | .scalar s => p.scalar (depth + 2).toNat false s
  | .list [] | .tuple [] => (p.mark "[" true false).mark "]" false false
  | .list (v :: vs) | .tuple (v :: vs) =>
    let inner := if afterColon && !p.indented then depth else depth + 2
    items p inner (v :: vs)
  | .map [] => (p.mark "\x7b" true false).mark "\x7d" false false
  | .map (e :: es) => entries p (depth + 2) (e :: es)
  | v => p.text (depth + 2).toNat false v.shown

def items (p : Pen) (depth : Int) : List Value → Pen
  | [] => p
  | v :: rest => items (value ((p.indent depth.toNat).mark "-" true true) depth false v) depth rest

def entries (p : Pen) (depth : Int) : List (Scalar × Value) → Pen
  | [] => p
  | (k, v) :: rest =>
    let p := p.indent depth.toNat
    let p :=
      if isSimpleKey k then (p.scalar (depth + 2).toNat true k).mark ":" false false
      else (((p.mark "?" true true).scalar (depth + 2).toNat false k).indent depth.toNat).mark
        ":" true true
    entries (value p depth true v) depth rest

end

end Pen

mutual

def sorted : Value → Value
  | .map es => .map ((sortedEntries es).mergeSort Pen.keyBefore)
  | .list vs => .list (sortedItems vs)
  | v => v

def sortedItems : List Value → List Value
  | [] => []
  | v :: rest => sorted v :: sortedItems rest

def sortedEntries : List (Scalar × Value) → List (Scalar × Value)
  | [] => []
  | (k, v) :: rest => (k, sorted v) :: sortedEntries rest

end

def write (v : Value) : Text := ((Pen.start.value (-2) false (sorted v)).indent 0).written.reverse

end SceneBook.Yaml
