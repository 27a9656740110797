import SceneBook.Proofs.Results
import SceneBook.Proofs.Text.Runs
import SceneBook.Settings.Basic

/-!
# Templates

A template is a text in which a dollar sign before a name holds the place of a value. It is filled
in one pass from left to right: a value that has been filled in is not looked at again, so that all
places are filled at once, whatever the values look like.
-/

namespace SceneBook.Template

inductive Fault
  /-- A name that has no value. -/
  | unknown (name : Text)
  /-- A dollar sign that is neither doubled nor before a name. -/
  | malformed

def sign : CodePoint := .scalar '$'

def opening : CodePoint := .scalar '\x7b'

def closing : CodePoint := .scalar '\x7d'

def isNameStart (c : CodePoint) : Bool := Settings.isLetter c || c = .scalar '_'

def isNamePart (c : CodePoint) : Bool := isNameStart c || Settings.isDigit c

def run (t : Text) : Text := t.takeWhile isNamePart

/-- The name after a dollar sign, alone or in braces, and how many code points it takes. -/
def place? (t : Text) : Option (Text × Nat) :=
  if (run t).head?.any isNameStart then some (run t, (run t).length)
  else
    let name := run t.tail
    if t.head? = some opening && name.head?.any isNameStart &&
        (t.tail.drop name.length).head? = some closing then
      some (name, name.length + 2)
    else none

/-- Fills the places of a template. A doubled dollar sign stands for one. -/
def fill (values : List (Text × Text)) (t : Text) : Except Fault Text :=
  match t with
  | [] => .ok []
  | c :: rest =>
    if c ≠ sign then (fill values rest).map (c :: ·)
    else if rest.head? = some sign then (fill values rest.tail).map (sign :: ·)
    else
      match place? rest with
      | none => .error .malformed
      | some (name, n) =>
        match values.lookup name with
        | none => .error (.unknown name)
        | some value => (fill values (rest.drop n)).map (value ++ ·)
termination_by t.length

variable {values : List (Text × Text)} {text name value rest filled : Text}

theorem fill_text (htext : sign ∉ text) (hrest : fill values rest = .ok filled) :
    fill values (text ++ rest) = .ok (text ++ filled) := by
  induction text with
  | nil => exact hrest
  | cons c cs ih =>
    obtain ⟨hc, hcs⟩ := not_or.mp (List.mem_cons.not.mp htext)
    rw [List.cons_append, fill, if_pos (Ne.symm hc), ih hcs]
    rfl

theorem fill_of_not_mem (htext : sign ∉ text) : fill values text = .ok text := by
  have hnil : fill values [] = .ok [] := by rw [fill]
  have htext := fill_text htext hnil
  rwa [List.append_nil] at htext

theorem fill_place (hstart : name.head?.any isNameStart) (hname : ∀ c ∈ name, isNamePart c)
    (hstop : Text.Stops isNamePart rest) (hvalue : values.lookup name = some value)
    (hrest : fill values rest = .ok filled) :
    fill values (sign :: (name ++ rest)) = .ok (value ++ filled) := by
  have hrun : run (name ++ rest) = name := Text.takeWhile_run hname hstop
  have hplace : place? (name ++ rest) = some (name, name.length) := by
    rw [place?, hrun, if_pos hstart]
  have hsign : (name ++ rest).head? ≠ some sign := by
    intro hhead
    cases name with
    | nil => cases hstart
    | cons c cs =>
      obtain rfl := Option.some.inj hhead
      cases hstart
  rw [fill, if_neg (by simp), if_neg hsign, hplace]
  simp only [hvalue, List.drop_left', hrest]
  rfl

end SceneBook.Template
