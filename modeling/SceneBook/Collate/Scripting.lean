import SceneBook.Artifact
import SceneBook.Import.Given
import SceneBook.Settings.Basic
import SceneBook.Value.Json
import SceneBook.Workbook.Extraction

/-!
# Collated scripts

All scripts of a workbook in one module: the imports, the definitions in the order they were
found, a table with one function for each scene, and the code that mounts the table on a store.
-/

namespace SceneBook.Scripting

/-- A text on one line, its runs of blanks narrowed to one space. -/
def commentSafe (t : Text) : Text := Text.join " " t.words

def singleQuotedPoint (c : CodePoint) : Text :=
  if c = .scalar '\\' then "\\\\"
  else if c = .scalar '\'' then "\\'"
  else if c = .scalar '\n' then "\\n"
  else [c]

def singleQuoted (t : Text) : Text := "'" ++ t.spell singleQuotedPoint ++ "'"

def announcement (moduleName : Text) : Text := "Loading module \"" ++ moduleName ++ "\""

def definitionLines (i : Item) : List Text :=
  ["// JS Definition from scene " ++ Text.ofInt i.sceneNumber, i.code]

def tableEntry (index : Nat) (body : Text) : Text :=
  "// JS scene " ++ Text.ofNat (index + 1) ++ "\n\"" ++ Text.ofNat index ++
    "\": function () \x7b " ++ body ++ " \x7d"

def bodyAt (groups : List (Int × Text)) (index : Nat) : Text :=
  (groups.lookup (index : Int)).getD []

/-- The entries of the dispatch table, one for each index below the count. -/
def table (count : Nat) (groups : List (Int × Text)) : List Text :=
  (List.range count).map fun i => tableEntry i (bodyAt groups i)

/-- The lines that mount a module, for the written root key and the number of table entries. -/
def mountLines (rootKey count : Text) : List Text :=
  [
    "export function mount (mountpoint, initial) \x7b",
    "  const Store = \x7b",
    "    " ++ rootKey ++ ": Object.assign(\x7b\x7d, initial),",
    "  \x7d;",
    "  const connectStore = (path = [" ++ rootKey ++ "]) => \x7b",
    "    let root = Store;",
    "    path.forEach((key) => \x7b",
    "      if (root === null || typeof root !== \"object\" || " ++
      "!Object.prototype.hasOwnProperty.call(root, key)) \x7b",
    "        throw new Error(\"Store path not found: \" + path.join(\"/\"));",
    "      \x7d",
    "      root = root[key];",
    "    \x7d);",
    "    return (\x7b",
    "      root,",
    "      get: (key) => root[key],",
    "      set: (key, value) => root[key] = value,",
    "      keys: () => Object.keys(root),",
    "    \x7d);",
    "  \x7d;",
    "  const program = Program(\x7bconnectStore\x7d);",
    "  const sceneCount = " ++ count ++ ";",
    "  const dispatch = (n, container) => \x7b",
    "    if (!Number.isInteger(n) || n < 1 || n > sceneCount) \x7b",
    "      throw new RangeError(\"scene out of range: \" + n);",
    "    \x7d",
    "    program[n - 1].call(container);",
    "  \x7d;",
    "  dispatch.connectStore = connectStore;",
    "  return dispatch;",
    "\x7d"]

structure Parts where
  moduleName : Text
  importLines : List Text
  announces : Bool
  definitions : List Item
  entries : List Text
  rootKey : Text

def programHead : Text := "export function Program (\x7bconnectStore, initializeStore\x7d) \x7b"

def tableHead : Text := "  return (\x7b"

def tableFoot : Text := "  \x7d)"

def programFoot : Text := "\x7d"

namespace Parts

def titleLine (p : Parts) : Text := "// module " ++ commentSafe p.moduleName ++ " (ES6)"

def announceLines (p : Parts) : List Text :=
  if p.announces then ["console.log(" ++ singleQuoted (announcement p.moduleName) ++ ")"] else []

def tableLines (p : Parts) : List Text :=
  if p.entries.isEmpty then [] else [Text.join ",\n" p.entries]

def mount (p : Parts) : Text :=
  Text.join "\n" (mountLines p.rootKey (Text.ofNat p.entries.length))

/-- The lines of a module; an item of the list may hold line feeds of its own. -/
def lines (p : Parts) : List Text :=
  p.titleLine :: p.importLines ++ p.announceLines ++
    programHead :: p.definitions.flatMap definitionLines ++
    tableHead :: p.tableLines ++ [tableFoot, programFoot, p.mount]

def text (p : Parts) : Text := Text.join "\n" p.lines ++ "\n"

end Parts

/-- Fails on the first import that is refused, and then on a root key that JSON cannot write. -/
def parts (w : Workbook) (e : Extraction) (s : Settings) : Except Failure Parts := do
  let importLines ← Import.lines w.imports
  match s.storeRootKey.json? with
  | none => .error (.misuse .noJson)
  | some rootKey =>
    .ok ⟨w.moduleName, importLines, s.announceLoad.isTruthy, e.definitions,
      table (w.span e) (Item.groupByScene "\n" e.scenes), rootKey⟩

def assemble (w : Workbook) (e : Extraction) (s : Settings) : Except Failure Text :=
  (parts w e s).map Parts.text

def collate (w : Workbook) (e : Extraction) (s : Settings) : Except Failure (List Artifact) :=
  (assemble w e s).map fun code =>
    [⟨Artifact.moduleFileName, "js", .eval, code, none, some w.moduleName⟩]

end SceneBook.Scripting
