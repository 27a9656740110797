import SceneBook.Command.Arguments
import SceneBook.Value.Basic

/-!
# Commands

What a caller asks for, as read from the arguments.
-/

namespace SceneBook

/-- What is collated and where it goes: into a folder, or else to the output. -/
structure CollateRequest where
  workbook : Text
  /-- The tags of the languages to collate; all languages when the list is empty. A switch without
  a value gives an empty list in the place of a tag. -/
  languages : List Value
  out : Option Text
  json : Bool

inductive Command
  | languages
  /-- Classifies a text, or else what is read from the input. -/
  | classify (language : Text) (text : Option Text)
  | collate (request : CollateRequest)

/-- A line without a command asks for help. The project may be left out, and its switch may be left
without a value. -/
structure Invocation where
  project : Option (Option Text)
  verbose : Bool
  command : Option Command

namespace Command

/-- A single dash stands for the input, and so does an end mark in the place of the text. -/
def classifiedText (t : Text) : Option Text :=
  if t = [dash] || t = endText then none else some t

def tagValue (given : Option Text) : Value := (given.map Value.text).getD (.list [])

def ofLine : Form → Line → Option Command
  | .languages, _ => some .languages
  | .classify, l =>
    match l.operands with
    | language :: rest => some (.classify language (rest.head?.bind classifiedText))
    | [] => none
  | .collate, l =>
    match l.operands with
    | workbook :: _ =>
      some (.collate ⟨workbook, (l.values .language).map tagValue,
        (l.value? .out).join.filter fun t => !t.isEmpty, l.has .json⟩)
    | [] => none
  | .program, _ => none

end Command

namespace Invocation

def finish (l : Command.Line) (command : Option Command) (leftover : List Text) :
    Except Command.Halt Invocation :=
  match l.leftover ++ leftover with
  | [] => .ok ⟨l.value? .project, l.has .verbose, command⟩
  | arguments => .error (.fault .program (.unrecognized arguments))

/-- Reads the arguments. What is left over by the command is a fault of the whole line. -/
def ofArguments (texts : List Text) : Except Command.Halt Invocation := do
  let l ← Command.read .program texts
  match l.command with
  | none => finish l none []
  | some (name, rest) =>
    match Command.Form.ofCommand? name with
    | none => .error (.fault .program (.unknownCommand name))
    | some form => do
      let sub ← Command.read form rest
      finish l (Command.ofLine form sub) sub.leftover

end Invocation

end SceneBook
