import SceneBook.Text.CodePoint

/-!
# Forms of command lines

The form of a line says which switches it may have and how many operands it takes: there is one
form for the program, whose operand is a command, and one for each command.
-/

namespace SceneBook.Command

inductive Switch
  | help
  | project
  | verbose
  | version
  | language
  | out
  | json
  deriving DecidableEq

inductive Form
  | program
  | languages
  | classify
  | collate
  deriving DecidableEq

namespace Switch

def names : Switch → List Text
  | .help => ["-h", "--help"]
  | .project => ["--project", "-p"]
  | .verbose => ["--verbose", "-v"]
  | .version => ["--version", "-V"]
  | .language => ["--language", "-l"]
  | .out => ["--out", "-o"]
  | .json => ["--json"]

def takesValue : Switch → Bool
  | .project | .language | .out => true
  | .help | .verbose | .version | .json => false

def label (s : Switch) : Text := Text.join "/" s.names

end Switch

namespace Form

def switches : Form → List Switch
  | .program => [.help, .project, .verbose, .version]
  | .languages | .classify => [.help]
  | .collate => [.help, .language, .out, .json]

/-- All spellings of the switches, each with the switch it stands for. -/
def spellings (f : Form) : List (Text × Switch) :=
  f.switches.flatMap fun s => s.names.map fun n => (n, s)

def find? (f : Form) (name : Text) : Option Switch := f.spellings.lookup name

def operandLimit : Form → Nat
  | .program | .languages => 0
  | .classify => 2
  | .collate => 1

def required : Form → List Text
  | .program | .languages => []
  | .classify => ["language"]
  | .collate => ["workbook"]

def commandNames : List Text := ["languages", "classify", "collate"]

def ofCommand? (name : Text) : Option Form :=
  if name = ("languages" : Text) then some .languages
  else if name = ("classify" : Text) then some .classify
  else if name = ("collate" : Text) then some .collate
  else none

end Form

end SceneBook.Command
