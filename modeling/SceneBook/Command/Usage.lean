import SceneBook.Command.Form
import SceneBook.Text.Quoted

/-!
# Usage

The texts that tell how the program is called, and what they say of a line that cannot be read.
-/

namespace SceneBook.Command

inductive LineFault
  | ambiguous (argument : Text) (candidates : List Text)
  | needsValue (s : Switch)
  /-- A value given to a switch that takes none. -/
  | valueUnused (s : Switch) (value : Text)
  | unknownCommand (name : Text)
  | required (operands : List Text)
  | unrecognized (arguments : List Text)
  deriving DecidableEq

namespace LineFault

def choices : Text := Text.join ", " (Form.commandNames.map Text.quoted)

def message : LineFault → Text
  | .ambiguous argument candidates =>
    "ambiguous option: " ++ argument ++ " could match " ++ Text.join ", " candidates
  | .needsValue s => "argument " ++ s.label ++ ": expected one argument"
  | .valueUnused s value =>
    "argument " ++ s.label ++ ": ignored explicit argument " ++ value.quoted
  | .unknownCommand name =>
    "argument command: invalid choice: " ++ name.quoted ++ " (choose from " ++ choices ++ ")"
  | .required operands =>
    "the following arguments are required: " ++ Text.join ", " operands
  | .unrecognized arguments => "unrecognized arguments: " ++ Text.join " " arguments

end LineFault

def programName : Text := "kram-web"

def version : Text := "0.1.0"

def versionLine : Text := programName ++ " " ++ version ++ "\n"

namespace Form

def title : Form → Text
  | .program => programName
  | .languages => programName ++ " languages"
  | .classify => programName ++ " classify"
  | .collate => programName ++ " collate"

def usageLines : Form → List Text
  | .program => [
    "usage: kram-web [-h] [--project PROJECT] [--verbose] [--version]",
    "                \x7blanguages,classify,collate\x7d ..."]
  | .languages => ["usage: kram-web languages [-h]"]
  | .classify => ["usage: kram-web classify [-h] language [text]"]
  | .collate => [
    "usage: kram-web collate [-h] [--language LANGUAGE] [--out OUT] [--json]",
    "                        workbook"]

def helpLines : Form → List Text
  | .program => [
    "",
    "kram-web -- Web-standard language backend for kram workbooks",
    "",
    "positional arguments:",
    "  \x7blanguages,classify,collate\x7d",
    "                        Commands",
    "    languages           List supported languages",
    "    classify            Classify one fragment",
    "    collate             Collate a workbook into artifacts",
    "",
    "options:",
    "  -h, --help            show this help message and exit",
    "  --project PROJECT, -p PROJECT",
    "                        Project directory holding .kram/config.yaml (default:",
    "                        KRAM_PROJECT_PATH or current)",
    "  --verbose, -v         Log debug details to stderr",
    "  --version, -V         show program's version number and exit"]
  | .languages => [
    "",
    "options:",
    "  -h, --help  show this help message and exit"]
  | .classify => [
    "",
    "positional arguments:",
    "  language    Language tag (html, css, svg, js)",
    "  text        Fragment text, or '-' for stdin",
    "",
    "options:",
    "  -h, --help  show this help message and exit"]
  | .collate => [
    "",
    "positional arguments:",
    "  workbook              Workbook document (YAML or JSON)",
    "",
    "options:",
    "  -h, --help            show this help message and exit",
    "  --language LANGUAGE, -l LANGUAGE",
    "                        Only this language (repeatable)",
    "  --out OUT, -o OUT     Write artifacts into this directory",
    "  --json                Print a JSON manifest"]

def linesText (lines : List Text) : Text := lines.flatMap fun l => l ++ ("\n" : Text)

def usage (f : Form) : Text := linesText f.usageLines

def help (f : Form) : Text := f.usage ++ linesText f.helpLines

/-- The usage, and under it what is wrong with a line of this form. -/
def complaint (f : Form) (fault : LineFault) : Text :=
  f.usage ++ f.title ++ ": error: " ++ fault.message ++ "\n"

end Form

end SceneBook.Command
