import SceneBook.Command.Run

/-!
# The program

Runs the command line on the files, the environment and the streams of the process.
-/

namespace SceneBook.Program

/-- What stands at a path. The numbers of the two kinds of wrong place are told apart. -/
def entryAt (path : String) : IO Entry := do
  try
    return .file (← IO.FS.readFile path).toList
  catch
    | .noFileOrDirectory .. => return .missing
    | .inappropriateType _ code _ =>
      return if code.toNat = FileFault.folder.number then .folder else .blocked
    | .invalidArgument path code details =>
      if code.toNat = FileFault.tooLong.number then return .tooLong
      else throw (.invalidArgument path code details)
    | e => throw e

def entriesAt (paths : List Path) : IO (List (Path × Entry)) :=
  paths.mapM fun p => do return (p, ← entryAt p.text.toLossyString)

def variableNames : List Text := Run.projectVariable :: Settings.fieldVariables.map Prod.fst

def environment : IO (List (Text × Text)) := do
  let found ← variableNames.mapM fun name => do
    let value ← IO.getEnv name.toLossyString
    return value.map fun v => (name, Text.ofString v)
  return found.filterMap id

def lookIn (known : List (Path × Entry)) (p : Path) : Entry := (known.lookup p).getD .missing

/-- The world with what stands at the paths that a run looks at. -/
def watch (w : World) (i : Invocation) : IO World := do
  let known ← entriesAt (Run.watched w i)
  let input ← if Run.readsInput i then (← IO.getStdin).readToEnd else pure ""
  return { w with look := lookIn known, input := Text.ofString input }

def watchWritten (w : World) (o : Outcome) : IO World := do
  let known ← entriesAt (o.written.map Prod.fst)
  return { w with look := fun p => (known.lookup p).getD (w.look p) }

def write (path : Path) (text : Text) : IO Unit := do
  let folder : Path := ⟨path.root, path.names.dropLast⟩
  IO.FS.createDirAll folder.text.toLossyString
  IO.FS.writeFile path.text.toLossyString text.toLossyString

def status : Exit → UInt32
  | .returned n | .halted n => UInt32.ofNat n
  | .broken _ => 1

def settle (o : Outcome) : IO UInt32 := do
  for f in o.written do
    write f.1 f.2
  (← IO.getStdout).putStr o.output.toLossyString
  (← IO.getStderr).putStr o.errors.toLossyString
  return status o.exit

end SceneBook.Program

open SceneBook in
def main (args : List String) : IO UInt32 := do
  let arguments := args.map Text.ofString
  let home := Text.ofString ((← IO.getEnv "HOME").getD "")
  let w : World := ⟨fun _ => .missing, ← Program.environment, [], (Path.ofText home).settingsFile⟩
  match Invocation.ofArguments arguments with
  | .error _ => Program.settle (run w arguments)
  | .ok i =>
    let w ← Program.watch w i
    let w ← Program.watchWritten w (run w arguments)
    Program.settle (run w arguments)
