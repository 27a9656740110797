import SceneBook.Files.Basic
import SceneBook.Files.Path

/-!
# Folders

A folder as the files below it, each under the names that lead to it. A folder inside it is there
as soon as a file is below it. What lies outside is not known and counts as missing, apart from
the folders on the way up and the few entries that every system has.
-/

namespace SceneBook

abbrev Folder := List (List Text × List Char)

namespace Folder

def ofFiles (files : List (Text × List Char)) : Folder :=
  files.map fun f => ((Path.ofText f.1).names, f.2)

/-- Whether some file stands at a proper beginning of the names. -/
def blocks (d : Folder) (names : List Text) : Bool :=
  d.any fun f => f.1.isPrefixOf names && f.1 ≠ names

def leadsOn (d : Folder) (names : List Text) : Bool :=
  names.isEmpty || d.any fun f => names.isPrefixOf f.1 && f.1 ≠ names

def entryAt (d : Folder) (names : List Text) : Entry :=
  match d.lookup names with
  | some content => .file content
  | none => if d.blocks names then .blocked else if d.leadsOn names then .folder else .missing

def above (names : List Text) : Entry :=
  match names.dropWhile fun n => n = Path.parentName with
  | [] => .folder
  | n :: _ => if Path.isLongName n then .tooLong else .missing

/-- What stands under names that lead on from a place in the folder. -/
def walk (d : Folder) (here : List Text) : List Text → Entry
  | [] => d.entryAt here
  | n :: rest =>
    if n = Path.parentName || Path.isLongName n then
      match d.entryAt here with
      | .folder =>
        if Path.isLongName n then .tooLong
        else if here.isEmpty then above rest
        else d.walk here.dropLast rest
      | .file _ => .blocked
      | e => e
    else d.walk (here ++ [n]) rest

def systemFolders : List Text :=
  ["bin", "dev", "etc", "home", "lib", "opt", "proc", "root", "run", "sbin", "srv", "sys", "tmp",
    "usr", "var"]

/-- What stands under names from the root on: the folders of a system, and a file that is always
empty. -/
def system (names : List Text) : Entry :=
  match names with
  | [n] => if systemFolders.contains n then .folder else above names
  | n :: m :: rest =>
    if n = ("dev" : Text) && m = ("null" : Text) then
      if rest.isEmpty then .file [] else .blocked
    else if systemFolders.contains n then above (m :: rest)
    else above names
  | [] => .folder

def look (d : Folder) (p : Path) : Entry :=
  if p.isLong then .tooLong
  else if p.root.isEmpty then d.walk [] p.names
  else system p.names

/-- The place of a path whose folders are all there, unless it lies outside. -/
def place? (here : List Text) : List Text → Option (List Text)
  | [] => some here
  | n :: rest =>
    if n = Path.parentName then
      if here.isEmpty then none else place? here.dropLast rest
    else place? (here ++ [n]) rest

def putText (path text : Text) : List (Text × Text) → List (Text × Text)
  | [] => [(path, text)]
  | (p, t) :: rest => if p = path then (p, text) :: rest else (p, t) :: putText path text rest

/-- The files that writing adds to the folder, each once and with the text written last. -/
def added (d : Folder) (writes : List (Path × Text)) : List (Text × Text) :=
  writes.foldl (fun files w =>
    if w.1.root.isEmpty then
      match place? [] w.1.names with
      | some names =>
        if (d.lookup names).isSome then files
        else putText (Text.join [Path.slash] names) w.2 files
      | none => files
    else files) []

end Folder

end SceneBook
