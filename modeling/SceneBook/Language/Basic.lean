import SceneBook.Language.Opening
import SceneBook.Text.LowerCase
import SceneBook.Workbook.Basic

/-!
# Languages

A language says which openings make a fragment a definition, by an ordered table, and which kind
of artifact its fragments are collated into. The first row of the table that reads the start of a
fragment decides.
-/

namespace SceneBook

/-- The part of a match that a row takes a subtype or a name from, by the number of its group; zero
is all of the match. -/
abbrev Part := Int

namespace Part

def whole : Part := 0

def name : Part := 1

/-- No group has this number. -/
def missing : Part := -1

end Part

structure Row where
  opening : Pattern
  subtype : Option Text
  subtypePart : Option Part
  namePart : Option Part

/-- What the fragments of a language are made into. -/
inductive Medium
  | markup
  | styling
  | graphics
  | scripting
  deriving DecidableEq

structure Language where
  tag : Text
  name : Text
  medium : Medium
  rows : List Row
  defaultMode : Mode
  lowercaseSubtype : Bool

/-- What a part has, if it took part. There has to be a group of its number. -/
def Match.part (m : Match) (p : Part) : Except Misuse (Option Text) :=
  if p < 0 then .error .noSuchRow
  else match (some m.whole :: m.groups)[p.toNat]? with
    | some t? => .ok t?
    | none => .error .noSuchRow

namespace Row

/-- A captured subtype; one that took no part cannot be put into lower case. -/
def capturedSubtype (m : Match) (lowercase : Bool) (p : Part) : Except Misuse (Option Text) := do
  match ← m.part p, lowercase with
  | t?, false => .ok t?
  | some t, true => .ok (some t.lower)
  | none, true => .error .noSuchPart

/-- A fixed subtype wins over a captured one. -/
def subtypeOf (r : Row) (lowercase : Bool) (m : Match) : Except Misuse (Option Text) :=
  match r.subtype, r.subtypePart with
  | some s, _ => .ok (some s)
  | none, some p => capturedSubtype m lowercase p
  | none, none => .ok none

def nameOf (r : Row) (m : Match) : Except Misuse (Option Text) :=
  match r.namePart with
  | some p => m.part p
  | none => .ok none

def verdict (r : Row) (lowercase : Bool) (m : Match) : Except Misuse Classification := do
  let subtype ← r.subtypeOf lowercase m
  let name ← r.nameOf m
  pure ⟨.define, subtype, name⟩

end Row

namespace Language

/-- Every fragment is a definition, whatever it starts with. -/
def alwaysDefines (l : Language) : Bool := l.defaultMode = .define && l.rows.isEmpty

def classifyBy (rows : List Row) (lowercase : Bool) (fallback : Mode) (code : Text) :
    Except Misuse Classification :=
  match rows with
  | [] => .ok ⟨fallback, none, none⟩
  | r :: rest =>
    match r.opening code with
    | some m => r.verdict lowercase m
    | none => classifyBy rest lowercase fallback code

def classify? (l : Language) (code : Text) : Except Misuse Classification :=
  classifyBy l.rows l.lowercaseSubtype l.defaultMode code

/-- The verdict on a value. Anything but a text is an evaluation. -/
def classifyValue (l : Language) (code : Value) : Except Misuse Classification :=
  match code.text? with
  | none => .ok .eval
  | some t => l.classify? t

/-- The verdict on a text; an evaluation where the row that has to decide cannot. -/
def classify (l : Language) (code : Text) : Classification :=
  match l.classify? code with
  | .ok c => c
  | .error _ => .eval

/-- Whether a row that cannot give its verdict has to decide about a text. -/
def isBrokenBy (l : Language) (code : Text) : Bool := (l.classify? code).toOption.isNone

end Language

end SceneBook
