import SceneBook.Command.Basic
import SceneBook.Files.Path
import SceneBook.Registry
import SceneBook.Settings.Layers

/-!
# Runs

What the program does with its arguments: it reads settings, performs the command, and answers
with a status, its output, its errors and the files it has written. A report and a fault of a file
end a run with status one; a misuse breaks it off.
-/

namespace SceneBook

structure World where
  look : Path → Entry
  environment : List (Text × Text)
  input : Text
  userSettings : Path

inductive Notice
  | settingsLayer (path : Text)
  | assembled (moduleName : Text) (e : Extraction)
  | collated (tag : Text) (e : Extraction) (artifacts : List Artifact)
  | wrote (path : Path)

namespace Notice

def counts (e : Extraction) : Text :=
  Text.ofNat e.definitions.length ++ " definition(s), " ++ Text.ofNat e.scenes.length ++
    " scene item(s)"

def namesText (artifacts : List Artifact) : Text :=
  (Value.list (artifacts.map fun a => .text a.name)).plain

def text : Notice → Text
  | .settingsLayer path => "DEBUG kram_web.config: Loaded config layer from " ++ path
  | .assembled moduleName e =>
    "DEBUG kram_web.core.languages.javascript: Assembled module " ++ moduleName ++ ": " ++ counts e
  | .collated tag e artifacts =>
    "DEBUG kram_web.core.languages.plugin: Collated " ++ tag ++ ": " ++ counts e ++ " -> " ++
      namesText artifacts
  | .wrote path => "INFO kram_web.cli: Wrote " ++ path.text

end Notice

/-- How a run has ended: with a status, with a status while the arguments were read, or broken off
by a misuse. -/
inductive Exit
  | returned (status : Nat)
  | halted (status : Nat)
  | broken (m : Misuse)

structure Outcome where
  exit : Exit
  output : Text
  errors : Text
  written : List (Path × Text)

/-- What a command has done: the notices, the files, and its output or the failure that ended it. -/
structure Performance where
  notices : List Notice
  written : List (Path × Text)
  result : Except Failure Text

namespace Performance

def ofResult (result : Except Failure Text) : Performance := ⟨[], [], result⟩

def after (p : Performance) (notices : List Notice) : Performance :=
  { p with notices := notices ++ p.notices }

end Performance

namespace Run

def line (t : Text) : Text := t ++ ("\n" : Text)

def languagesText (r : Registry) : Text :=
  line (Language.webTitle ++ ": " ++ Language.webSummary) ++
    r.plugins.flatMap fun p => line ("  " ++ p.tag.padRight 5 ++ " " ++ p.language.name)

def classify (w : World) (r : Registry) (language : Text) (text : Option Text) :
    Except Failure Text := do
  let p ← (r.get language).mapError Failure.report
  match (p.classify (text.getD w.input)).json? with
  | some t => .ok (line t)
  | none => .error (.misuse .noJson)

def collationNotices (b : Workbook) (p : Plugin) (artifacts : List Artifact) : List Notice :=
  let e := b.extract p.tag
  (match p.language.medium with
    | .scripting => [.assembled b.moduleName e]
    | _ => []) ++ [.collated p.tag e artifacts]

/-- Collates the languages of the tags one after the other, up to the first that fails. -/
def collateEach [Limits] (r : Registry) (b : Workbook) :
    List Value → List Notice × Except Failure (List Artifact)
  | [] => ([], .ok [])
  | t :: rest =>
    match r.getValue t with
    | .error f => ([], .error f)
    | .ok p =>
      match p.collate b with
      | .error f => ([], .error f)
      | .ok artifacts =>
        let (notices, later) := collateEach r b rest
        (collationNotices b p artifacts ++ notices, later.map fun as => artifacts ++ as)

/-- Writes artifacts into a folder, one after the other and up to the first that fails. A text that
cannot be stored leaves an empty file behind. -/
def writeEach (w : World) (out : Path) : List Artifact → Performance
  | [] => .ofResult (.ok [])
  | a :: rest =>
    let target := out.child a.name
    if (w.look target).isFolder then .ofResult (.error (.file .folder target.text))
    else if a.code.any CodePoint.isSurrogate then
      ⟨[], [(target, [])], .error (.misuse .notStorable)⟩
    else
      let p := writeEach w out rest
      ⟨.wrote target :: p.notices, (target, a.code) :: p.written, p.result⟩

/-- The path without the names that two dots after them take back. -/
def direct (names : List Text) : List Text :=
  names.foldl (fun seen n =>
    if n = Path.parentName && seen.getLast?.any (fun m => m ≠ Path.parentName) then seen.dropLast
    else seen ++ [n]) []

/-- Sees that a folder can be made where there is none, given that it can be for the path to it. -/
def makeLast (w : World) (out : Path) : Except Failure Unit :=
  match w.look ⟨out.root, direct out.names⟩ with
  | .file _ => .error (.file .present out.text)
  | _ =>
    if out.names.getLast?.any Path.isLongName then .error (.file .tooLong out.text) else .ok ()

/-- Sees that a folder can be made where there is none, with those on the way to it. -/
def makeFolder (w : World) (root : Text) : List Text → Except Failure Unit
  | [] => .ok ()
  | n :: names => do
    let out : Path := ⟨root, (n :: names).reverse⟩
    match w.look out with
    | .file _ => .error (.file .present out.text)
    | .blocked => .error (.file .blocked out.text)
    | .tooLong => .error (.file .tooLong out.text)
    | .folder => .ok ()
    | .missing => do
      makeFolder w root names
      makeLast w out

def heading (a : Artifact) : Text :=
  "--- " ++ a.name ++ " (" ++ a.language ++ ", " ++ a.mode.word ++ ")"

def listing (artifacts : List Artifact) : Text :=
  artifacts.flatMap fun a => line (heading a) ++ line a.code

def manifest (withCode : Bool) (artifacts : List Artifact) : Except Failure Text :=
  match Artifact.manifest? .pretty withCode artifacts with
  | some t => .ok (line t)
  | none => .error (.misuse .noJson)

def summary (artifacts : List Artifact) (out : Text) : Text :=
  line ("Wrote " ++ Text.ofNat artifacts.length ++ " artifact(s) to " ++ out)

def deliver (w : World) (request : CollateRequest) (artifacts : List Artifact) : Performance :=
  match request.out with
  | none =>
    .ofResult (if request.json then manifest true artifacts else .ok (listing artifacts))
  | some out =>
    let folder := Path.ofText out
    let made : Except Failure Unit :=
      if out.contains (.scalar '\x00') then .error (.misuse .nullCharacter)
      else makeFolder w folder.root folder.names.reverse
    match made with
    | .error f => .ofResult (.error f)
    | .ok () =>
      let p := writeEach w folder artifacts
      { p with result := p.result.bind fun _ =>
          if request.json then manifest false artifacts else .ok (summary artifacts out) }

def collate [Limits] (w : World) (r : Registry) (request : CollateRequest) : Performance :=
  let path := Path.ofText request.workbook
  match Workbook.load path.text (w.look path) with
  | .error f => .ofResult (.error f)
  | .ok b =>
    let b := r.classifyWorkbook false b
    let tags := if request.languages.isEmpty then r.known else request.languages
    match collateEach r b tags with
    | (notices, .error f) => ⟨notices, [], .error f⟩
    | (notices, .ok artifacts) => (deliver w request artifacts).after notices

def perform [Limits] (w : World) (r : Registry) : Command → Performance
  | .languages => .ofResult (.ok (languagesText r))
  | .classify language text => .ofResult (classify w r language text)
  | .collate request => collate w r request

def projectVariable : Text := "KRAM_PROJECT_PATH"

/-- The folder of the project: as given, or else as the environment has it, or else the current. -/
def projectOf (w : World) (i : Invocation) : Path :=
  Path.ofText ((i.project.join.orElse fun _ => w.environment.lookup projectVariable).getD [])

def sourcesOf (w : World) (i : Invocation) : Settings.Sources :=
  let project := (projectOf w i).settingsFile
  ⟨⟨w.userSettings.text, w.look w.userSettings⟩, ⟨project.text, w.look project⟩, w.environment⟩

/-- The files that were read as layers of settings, up to the first that cannot be. -/
def layerNotices : List Settings.File → List Notice
  | [] => []
  | f :: rest =>
    match f.entries with
    | .error _ => []
    | .ok _ =>
      if f.entry.isFile then .settingsLayer f.path :: layerNotices rest else layerNotices rest

def withSettings [Limits] (w : World) (i : Invocation) (c : Command) : Performance :=
  let sources := sourcesOf w i
  let notices := layerNotices [sources.user, sources.project]
  if i.project = some none then .ofResult (.error (.misuse .notText))
  else match sources.load with
    | .error f => (Performance.ofResult (.error f)).after notices
    | .ok s => (perform w (Registry.web s) c).after notices

def errorLine (message : Text) : Text := line ("Error: " ++ message)

/-- Ends a run with what a command has done; notices are for verbose runs only. -/
def conclude (verbose : Bool) (p : Performance) : Outcome :=
  let log := if verbose then p.notices.flatMap fun n => line n.text else []
  match p.result with
  | .ok output => ⟨.returned 0, output, log, p.written⟩
  | .error (.report r) => ⟨.returned 1, [], log ++ errorLine r.message, p.written⟩
  | .error (.file fault path) =>
    ⟨.returned 1, [], log ++ errorLine (fault.message path), p.written⟩
  | .error (.misuse m) => ⟨.broken m, [], log, p.written⟩

def ofHalt : Command.Halt → Outcome
  | .help f => ⟨.halted 0, f.help, [], []⟩
  | .version => ⟨.halted 0, Command.versionLine, [], []⟩
  | .fault f fault => ⟨.halted 2, [], f.complaint fault, []⟩

def watched (w : World) (i : Invocation) : List Path :=
  [w.userSettings, (projectOf w i).settingsFile] ++
    match i.command with
    | some (.collate request) => (request.workbook :: request.out.toList).map Path.ofText
    | _ => []

def readsInput (i : Invocation) : Bool :=
  match i.command with
  | some (.classify _ none) => true
  | _ => false

end Run

/-- Runs the program. Without a command it prints its help, whatever the settings are. -/
def run [Limits] (w : World) (arguments : List Text) : Outcome :=
  match Invocation.ofArguments arguments with
  | .error h => Run.ofHalt h
  | .ok i =>
    match i.command with
    | none => ⟨.returned 0, Command.Form.program.help, [], []⟩
    | some c => Run.conclude i.verbose (Run.withSettings w i c)

end SceneBook
