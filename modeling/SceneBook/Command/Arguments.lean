import SceneBook.Command.Usage
import SceneBook.Text.Digit

/-!
# Arguments

Reading the arguments of a line by its form. Each argument is first told apart by itself: a
switch, perhaps with a value joined to it, an operand, or the mark after which everything is an
operand. Then the arguments are gone through once. The operands of a command stand together; what
comes after them, and every switch that is not known, is left over.
-/

namespace SceneBook.Command

/-- What is joined to the spelling of a switch: a value after an equals sign, or the rest of an
argument that starts with a short switch. -/
inductive Attached
  | nothing
  | assigned (value : Text)
  | joined (rest : Text)

inductive ArgumentKind
  | switch (s : Switch) (a : Attached)
  | unknown
  | operand
  | endMark

structure Argument where
  text : Text
  kind : ArgumentKind

def dash : CodePoint := '-'

def equals : CodePoint := '='

def endText : Text := "--"

def cutAtEquals (t : Text) : Text × Option Text :=
  (t.takeWhile fun c => c ≠ equals,
    match t.dropWhile fun c => c ≠ equals with
    | [] => none
    | _ :: value => some value)

def attachedOf : Option Text → Attached
  | none => .nothing
  | some value => .assigned value

/-- The spellings that an argument may stand for: a long one is recognized by any beginning of
it, a short one by its letter. -/
def candidates (f : Form) (t : Text) : List (Text × Switch × Attached) :=
  if Text.startsWith endText t then
    let (name, value) := cutAtEquals t
    (f.spellings.filter fun s => Text.startsWith name s.1).map fun s => (s.1, s.2, attachedOf value)
  else
    (f.spellings.filter fun s => s.1 = t.take 2).map fun s => (s.1, s.2, .joined (t.drop 2))

/-- A dash and a decimal number, which is an operand and no switch. -/
def isNegativeNumber (t : Text) : Bool :=
  let t := if t.getLast? = some (.scalar '\n') then t.dropLast else t
  match t with
  | [] => false
  | c :: rest =>
    c = dash &&
      match rest.dropWhile CodePoint.isDigit with
      | [] => !rest.isEmpty
      | p :: decimals => p = .scalar '.' && !decimals.isEmpty && decimals.all CodePoint.isDigit

/-- The kind of an argument that is no spelling of a switch and starts with a dash. -/
def kindByCandidates (f : Form) (t : Text) : Except LineFault ArgumentKind :=
  match candidates f t with
  | [] =>
    if isNegativeNumber t || t.contains (.scalar ' ') then .ok .operand else .ok .unknown
  | [(_, s, a)] => .ok (.switch s a)
  | several => .error (.ambiguous t (several.map Prod.fst))

def kindOf (f : Form) (t : Text) : Except LineFault ArgumentKind :=
  if t.head? ≠ some dash then .ok .operand
  else match f.find? t with
    | some s => .ok (.switch s .nothing)
    | none =>
      if t = [dash] then .ok .operand
      else match cutAtEquals t with
        | (name, some value) =>
          match f.find? name with
          | some s => .ok (.switch s (.assigned value))
          | none => kindByCandidates f t
        | (_, none) => kindByCandidates f t

/-- The arguments with their kinds; only the first end mark is one. -/
def arguments (f : Form) : List Text → Except LineFault (List Argument)
  | [] => .ok []
  | t :: rest =>
    if t = endText then .ok (⟨t, .endMark⟩ :: rest.map fun r => ⟨r, .operand⟩)
    else do
      let kind ← kindOf f t
      let later ← arguments f rest
      pure (⟨t, kind⟩ :: later)

/-- A switch with its value. It has none where it takes none, or where its value was an end mark,
which is dropped. -/
structure Given where
  switch : Switch
  value : Option Text

namespace Given

def flag (s : Switch) : Given := ⟨s, none⟩

def valued (s : Switch) (value : Text) : Given := ⟨s, if value = endText then none else some value⟩

end Given

/-- The switches that one argument sets, and the last of them if it awaits a value. -/
structure Cluster where
  given : List Given
  awaits : Option Switch

namespace Cluster

def alone (s : Switch) : Cluster := if s.takesValue then ⟨[], some s⟩ else ⟨[.flag s], none⟩

def assigned (s : Switch) (value : Text) : Except LineFault Cluster :=
  if s.takesValue then .ok ⟨[.valued s value], none⟩ else .error (.valueUnused s value)

/-- What is joined to a short switch is its value, or else more short switches. -/
def joined (f : Form) (s : Switch) : Text → Except LineFault Cluster
  | [] => .ok (alone s)
  | c :: rest =>
    if s.takesValue then .ok ⟨[.valued s (c :: rest)], none⟩
    else match f.find? [dash, c] with
      | none => .error (.valueUnused s (c :: rest))
      | some next => do
        let later ← joined f next rest
        pure { later with given := .flag s :: later.given }

/-- What is assigned to a short switch without a value is joined to it, unless it is empty. -/
def ofAttached (f : Form) (s : Switch) (isLong : Bool) : Attached → Except LineFault Cluster
  | .nothing => .ok (alone s)
  | .assigned value => if isLong || value.isEmpty then assigned s value else joined f s value
  | .joined rest => joined f s rest

end Cluster

inductive Halt
  | help (f : Form)
  | version
  | fault (f : Form) (fault : LineFault)

structure Line where
  given : List Given
  operands : List Text
  /-- The command of a line of the program, with the arguments after it. -/
  command : Option (Text × List Text)
  leftover : List Text

namespace Line

def empty : Line := ⟨[], [], none, []⟩

def ofCommand (name : Text) (rest : List Argument) : Line :=
  { empty with command := some (name, rest.map Argument.text) }

def ofLeftover (t : Text) : Line := { empty with leftover := [t] }

def withGiven (l : Line) (given : List Given) : Line := { l with given := given ++ l.given }

def withOperand (l : Line) (t : Text) : Line := { l with operands := t :: l.operands }

def withLeftover (l : Line) (t : Text) : Line := { l with leftover := t :: l.leftover }

def values (l : Line) (s : Switch) : List (Option Text) :=
  (l.given.filter fun g => g.switch = s).map Given.value

def value? (l : Line) (s : Switch) : Option (Option Text) := (l.values s).getLast?

def has (l : Line) (s : Switch) : Bool := !(l.values s).isEmpty

end Line

def haltOf? (f : Form) : List Given → Option Halt
  | [] => none
  | ⟨.help, _⟩ :: _ => some (.help f)
  | ⟨.version, _⟩ :: _ => some .version
  | _ :: rest => haltOf? f rest

/-- Where the reading stands: in front of a command, or in front of, among or after the operands
of one; a number says how many operands may still come. -/
inductive Position
  | command
  | before (limit : Nat)
  | among (limit : Nat)
  | after

namespace Position

def passSwitch : Position → Position
  | .among _ => .after
  | p => p

end Position

def start (f : Form) : Position :=
  match f with
  | .program => .command
  | f => .before f.operandLimit

def setSwitches (f : Form) (given : List Given) (later : Except Halt Line) : Except Halt Line :=
  match haltOf? f given with
  | some h => .error h
  | none => later.map fun l => l.withGiven given

/-- An end mark beside an operand is dropped, and one that stands elsewhere is left over. In front
of a command it stands for the command. -/
def readLine (f : Form) : Position → List Argument → Except Halt Line
  | _, [] => .ok .empty
  | .command, ⟨t, .operand⟩ :: rest => .ok (.ofCommand t rest)
  | .command, ⟨t, .endMark⟩ :: rest =>
    if rest.isEmpty then .ok (.ofLeftover t) else .ok (.ofCommand t rest)
  | .before (n + 1), ⟨t, .operand⟩ :: rest | .among (n + 1), ⟨t, .operand⟩ :: rest =>
    (readLine f (.among n) rest).map fun l => l.withOperand t
  | p, ⟨t, .operand⟩ :: rest =>
    (readLine f p.passSwitch rest).map fun l => l.withLeftover t
  | .before (n + 1), ⟨t, .endMark⟩ :: rest =>
    if rest.isEmpty then .ok (.ofLeftover t) else readLine f (.before (n + 1)) rest
  | .among n, ⟨_, .endMark⟩ :: rest => readLine f (.among n) rest
  | p, ⟨t, .endMark⟩ :: rest => (readLine f p rest).map fun l => l.withLeftover t
  | p, ⟨t, .unknown⟩ :: rest =>
    (readLine f p.passSwitch rest).map fun l => l.withLeftover t
  | p, ⟨t, .switch s a⟩ :: rest =>
    match Cluster.ofAttached f s (Text.startsWith endText t) a with
    | .error fault => .error (.fault f fault)
    | .ok ⟨given, none⟩ => setSwitches f given (readLine f p.passSwitch rest)
    | .ok ⟨given, some last⟩ =>
      match rest with
      | ⟨value, .operand⟩ :: rest =>
        setSwitches f (given ++ [.valued last value]) (readLine f p.passSwitch rest)
      | _ => .error (.fault f (.needsValue last))

/-- Reads the arguments of a line, and sees that the operands are there that have to be. -/
def read (f : Form) (texts : List Text) : Except Halt Line :=
  match arguments f texts with
  | .error fault => .error (.fault f fault)
  | .ok as => do
    let l ← readLine f (start f) as
    match f.required.drop l.operands.length with
    | [] => pure l
    | missing => .error (.fault f (.required missing))

end SceneBook.Command
