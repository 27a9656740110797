import SceneBook.Collate.Scripting
import SceneBook.Proofs.Text.Decimal
import SceneBook.Proofs.Text.Join
import SceneBook.Proofs.Workbook.Grouping

/-!
# Dispatch tables

The table of a module has one entry for each scene that the workbook or the scene items reach. An
entry runs exactly the items of its index, and every number that the dispatcher lets through has
one.
-/

namespace SceneBook

/-- How many entries a dispatch table needs: one for each scene of the workbook, and one for each
index up to the highest that a scene item has. -/
def Workbook.coverage (w : Workbook) (e : Extraction) : Nat :=
  match (e.scenes.map Item.sceneIndex).max? with
  | none => w.sceneCount
  | some highest => (max (w.sceneCount : Int) (1 + highest)).toNat

namespace Scripting

/-- The number in the comment of an entry, the key that the entry stands under, and the items whose
codes its function runs. -/
structure Entry where
  number : Nat
  key : Text
  items : List Item

def entryText (number : Nat) (key body : Text) : Text :=
  "// JS scene " ++ Text.ofNat number ++ "\n" ++ key.asciiJson ++ ": function () \x7b " ++
    body ++ " \x7d"

namespace Entry

def text (x : Entry) : Text :=
  entryText x.number x.key (Text.join "\n" (x.items.map Item.code))

def ofIndex (items : List Item) (i : Nat) : Entry :=
  ⟨i + 1, Text.ofNat i, items.filter fun x => x.sceneIndex = i⟩

end Entry

def entries (items : List Item) (n : Nat) : List Entry := (List.range n).map (Entry.ofIndex items)

/-- The entry that the emitted dispatcher calls for a number: none unless the number is within its
bounds, and then the one under the key that spells the number less one. -/
def dispatched (table : List Entry) (count : Nat) (number : Int) : Option Entry :=
  if number < 1 ∨ (count : Int) < number then none
  else table.find? fun x => x.key = Text.ofInt (number - 1)

def tableText (table : List Text) : Text :=
  if table.isEmpty then [] else Text.join ",\n" table ++ "\n"

def headLines (moduleName : Text) (s : Settings) (importLines definitions : List Text) :
    List Text :=
  ("// module " ++ commentSafe moduleName ++ " (ES6)") :: importLines ++
    (if s.announceLoad.isTruthy then
      ["console.log(" ++ singleQuoted (announcement moduleName) ++ ")"] else []) ++
    programHead :: definitions

def mountOpening (rootKey : Text) : List Text := (mountLines rootKey []).take 20

def dispatcherLines (count : Nat) : List Text :=
  [
    "  const sceneCount = " ++ Text.ofNat count ++ ";",
    "  const dispatch = (n, container) => \x7b",
    "    if (!Number.isInteger(n) || n < 1 || n > sceneCount) \x7b",
    "      throw new RangeError(\"scene out of range: \" + n);",
    "    \x7d",
    "    program[n - 1].call(container);",
    "  \x7d;",
    "  dispatch.connectStore = connectStore;",
    "  return dispatch;",
    "\x7d"]

def moduleText (head table : List Text) (rootKey : Text) (count : Nat) : Text :=
  Text.join "\n" head ++ "\n  return (\x7b\n" ++ tableText table ++ "  \x7d)\n\x7d\n" ++
    Text.join "\n" (mountOpening rootKey ++ dispatcherLines count) ++ "\n"

theorem span_eq_coverage (w : Workbook) (e : Extraction) : w.span e = w.coverage e := by
  have hspan (n : Nat) : n < Item.span e.scenes ↔ ∃ x ∈ e.scenes, (n : Int) ≤ x.sceneIndex :=
    Item.lt_span_iff n e.scenes
  unfold Workbook.span Workbook.coverage
  cases hmax : (e.scenes.map Item.sceneIndex).max? with
  | none =>
    have hnil : e.scenes = [] := by simpa using List.max?_eq_none_iff.mp hmax
    simp [hnil, Item.span]
  | some highest =>
    obtain ⟨hmem, hle⟩ := List.max?_eq_some_iff.mp hmax
    obtain ⟨x, hx, rfl⟩ := List.mem_map.mp hmem
    have heq : Item.span e.scenes = (x.sceneIndex + 1).toNat := by
      apply Nat.le_antisymm
      · by_contra hlt
        obtain ⟨y, hy, hyx⟩ := (hspan _).mp (Nat.lt_of_not_le hlt)
        have := hle y.sceneIndex (List.mem_map.mpr ⟨y, hy, rfl⟩)
        omega
      · by_contra hlt
        have hpos : 0 ≤ x.sceneIndex := by omega
        have := (hspan x.sceneIndex.toNat).mpr ⟨x, hx, by omega⟩
        omega
    simp only [heq]
    omega

theorem table_groupByScene (items : List Item) (n : Nat) :
    table n (Item.groupByScene "\n" items) = (entries items n).map Entry.text := by
  unfold table entries
  rw [List.map_map]
  refine List.map_congr_left fun i _ => ?_
  have hbody : bodyAt (Item.groupByScene "\n" items) i = Item.codeAt "\n" i items :=
    Item.getD_lookup_groupByScene "\n" i items
  rw [hbody]
  simp [tableEntry, Entry.text, entryText, Entry.ofIndex, Item.codeAt, Text.asciiJson_ofNat,
    Text.ofString, Text.ofChars]

theorem mountLines_eq (rootKey : Text) (n : Nat) :
    mountLines rootKey (Text.ofNat n) = mountOpening rootKey ++ dispatcherLines n := rfl

private theorem join_table (table : List Text) :
    Text.join "\n" (tableHead :: if table.isEmpty then [] else [Text.join ",\n" table]) ++ "\n" =
      "  return (\x7b\n" ++ tableText table := by
  cases table with
  | nil => rfl
  | cons t rest =>
    change tableHead ++ "\n" ++ Text.join ",\n" (t :: rest) ++ "\n" =
      tableHead ++ "\n" ++ (Text.join ",\n" (t :: rest) ++ "\n")
    simp only [List.append_assoc]

private theorem join_module (head table : List Text) (mount : Text) (hhead : head ≠ []) :
    Text.join "\n" (head ++ ((tableHead :: if table.isEmpty then [] else [Text.join ",\n" table]) ++
      [tableFoot, programFoot, mount])) ++ "\n" =
    Text.join "\n" head ++ "\n  return (\x7b\n" ++ tableText table ++ "  \x7d)\n\x7d\n" ++
      mount ++ "\n" := by
  let opening : Text := "  return (\x7b\n"
  let rows : List Text := if table.isEmpty then [] else [Text.join ",\n" table]
  have hopen : ("\n  return (\x7b\n" : Text) = "\n" ++ opening := rfl
  have hfoot : Text.join "\n" [tableFoot, programFoot, mount] ++ "\n" =
      "  \x7d)\n\x7d\n" ++ mount ++ "\n" := rfl
  have htable : Text.join "\n" (tableHead :: rows) ++ "\n" = opening ++ tableText table :=
    join_table table
  rw [Text.join_append _ hhead (by simp), Text.join_append _ (by simp) (by simp), hopen]
  calc Text.join "\n" head ++ "\n" ++ (Text.join "\n" (tableHead :: rows) ++ "\n" ++
        Text.join "\n" [tableFoot, programFoot, mount]) ++ "\n"
      = Text.join "\n" head ++ "\n" ++ ((Text.join "\n" (tableHead :: rows) ++ "\n") ++
          (Text.join "\n" [tableFoot, programFoot, mount] ++ "\n")) := by
        simp only [List.append_assoc]
    _ = Text.join "\n" head ++ "\n" ++ ((opening ++ tableText table) ++
          ("  \x7d)\n\x7d\n" ++ mount ++ "\n")) := by
        rw [htable, hfoot]
    _ = Text.join "\n" head ++ ("\n" ++ opening) ++ tableText table ++ "  \x7d)\n\x7d\n" ++
          mount ++ "\n" := by
        simp only [List.append_assoc]

private theorem text_eq_moduleText (w : Workbook) (definitions : List Item) (s : Settings)
    (importLines table : List Text) (rootKey : Text) :
    Parts.text ⟨w.moduleName, importLines, s.announceLoad.isTruthy, definitions, table, rootKey⟩ =
      moduleText (headLines w.moduleName s importLines (definitions.flatMap definitionLines)) table
        rootKey table.length := by
  have hlines : Parts.lines
      ⟨w.moduleName, importLines, s.announceLoad.isTruthy, definitions, table, rootKey⟩ =
      headLines w.moduleName s importLines (definitions.flatMap definitionLines) ++
        ((tableHead :: if table.isEmpty then [] else [Text.join ",\n" table]) ++
          [tableFoot, programFoot,
            Text.join "\n" (mountOpening rootKey ++ dispatcherLines table.length)]) := by
    simp only [Parts.lines, Parts.titleLine, Parts.announceLines, Parts.tableLines, Parts.mount,
      headLines, mountLines_eq, List.append_assoc]
  rw [Parts.text, hlines, join_module _ _ _ (by simp [headLines])]
  rfl

/-- A module is assembled exactly when every import has a line and the root key has a JSON text. -/
theorem assemble_eq_ok_iff (w : Workbook) (e : Extraction) (s : Settings) (text : Text) :
    assemble w e s = .ok text ↔ ∃ importLines rootKey,
      Import.lines w.imports = .ok importLines ∧ s.storeRootKey.json? = some rootKey ∧
      text = moduleText
        (headLines w.moduleName s importLines (e.definitions.flatMap definitionLines))
        ((entries e.scenes (w.coverage e)).map Entry.text) rootKey (w.coverage e) := by
  have hlen : ((entries e.scenes (w.coverage e)).map Entry.text).length = w.coverage e := by
    simp [entries]
  have htext (importLines : List Text) (rootKey : Text) :=
    text_eq_moduleText w e.definitions s importLines
      ((entries e.scenes (w.coverage e)).map Entry.text) rootKey
  rw [hlen] at htext
  unfold assemble parts
  rw [span_eq_coverage, table_groupByScene]
  cases himports : Import.lines w.imports with
  | error f => simp [bind, Except.bind, Except.map]
  | ok importLines =>
    cases hkey : s.storeRootKey.json? with
    | none => simp [bind, Except.bind, Except.map]
    | some rootKey => simp [bind, Except.bind, Except.map, htext, eq_comm]

private theorem lt_coverage {w : Workbook} {e : Extraction} {x : Item} (hx : x ∈ e.scenes)
    (h : 0 ≤ x.sceneIndex) : x.sceneIndex < w.coverage e := by
  have hspan := (Item.lt_span_iff x.sceneIndex.toNat e.scenes).mpr ⟨x, hx, by omega⟩
  rw [← span_eq_coverage, Workbook.span]
  omega

/-- Within its bounds the dispatcher calls the entry of the index one below the number. -/
theorem dispatched_entries (items : List Item) (n i : Nat) (h : i < n) :
    dispatched (entries items n) n (i + 1) = some (Entry.ofIndex items i) := by
  have hbounds : ¬((i : Int) + 1 < 1 ∨ (n : Int) < (i : Int) + 1) := by omega
  have hkey (j : Nat) : (Entry.ofIndex items j).key = Text.ofInt ((i : Int) + 1 - 1) ↔ j = i := by
    rw [Int.add_sub_cancel, Text.ofInt_natCast]
    exact Text.ofNat_injective.eq_iff
  have hfind : (List.range n).find? (fun j => decide (j = i)) = some i := by
    rw [List.find?_range_eq_some]
    refine ⟨by simp, List.mem_range.mpr h, fun j hj => ?_⟩
    simpa using Nat.ne_of_lt hj
  unfold dispatched entries
  rw [if_neg hbounds, List.find?_map]
  simp only [Function.comp_def, hkey, hfind, Option.map_some]

/-- The emitted table has one entry for each scene that is covered, in their order. Each scene item
is in one entry, which is the one that the dispatcher calls for the number of its scene, and each
number that the dispatcher lets through has its entry. -/
theorem assemble_covers_scenes (w : Workbook) (e : Extraction) (s : Settings)
    (hindex : ∀ x ∈ e.scenes, 0 ≤ x.sceneIndex) :
    let n := w.coverage e
    let table := entries e.scenes n
    (∀ text, assemble w e s = .ok text ↔ ∃ importLines rootKey,
      Import.lines w.imports = .ok importLines ∧ s.storeRootKey.json? = some rootKey ∧
      text = moduleText
        (headLines w.moduleName s importLines (e.definitions.flatMap definitionLines))
        (table.map Entry.text) rootKey n) ∧
    table.length = n ∧
    (table.flatMap Entry.items).Perm e.scenes ∧
    (∀ x ∈ e.scenes, ∃ entry, dispatched table n (x.sceneIndex + 1) = some entry ∧
      x ∈ entry.items ∧ ∀ other ∈ table, x ∈ other.items → other = entry) ∧
    (∀ number : Int, 1 ≤ number → number ≤ n → ∃ entry ∈ table,
      dispatched table n number = some entry ∧ (entry.number : Int) = number) := by
  intro n table
  refine ⟨assemble_eq_ok_iff w e s, by simp [table, entries], ?_, ?_, ?_⟩
  · simp only [table, entries, List.flatMap_map]
    exact Item.filter_range_perm n e.scenes fun x hx => ⟨hindex x hx, lt_coverage hx (hindex x hx)⟩
  · intro x hx
    obtain ⟨i, hi⟩ := Int.eq_ofNat_of_zero_le (hindex x hx)
    have hlt : i < n := by
      have := lt_coverage (w := w) hx (hindex x hx)
      omega
    refine ⟨Entry.ofIndex e.scenes i, ?_, ?_, ?_⟩
    · rw [hi]
      exact dispatched_entries e.scenes n i hlt
    · simp [Entry.ofIndex, hx, hi]
    · intro other hother hxo
      obtain ⟨j, _, rfl⟩ := List.mem_map.mp hother
      have hj : x.sceneIndex = (j : Int) := by simpa [Entry.ofIndex, hx] using hxo
      rw [show j = i by omega]
  · intro number hlo hhi
    obtain ⟨i, rfl⟩ : ∃ i : Nat, number = (i : Int) + 1 := ⟨(number - 1).toNat, by omega⟩
    have hlt : i < n := by omega
    exact ⟨Entry.ofIndex e.scenes i, List.mem_map.mpr ⟨i, List.mem_range.mpr hlt, rfl⟩,
      dispatched_entries e.scenes n i hlt, by simp [Entry.ofIndex]⟩

/-- Scene items out of order, with a gap, and above the scenes of the workbook. -/
def scattered : Extraction :=
  ⟨[⟨3, [], "c()", .eval⟩, ⟨0, [], "a()", .eval⟩, ⟨3, [], "d()", .eval⟩], []⟩

theorem assemble_covers_scattered :
    (∀ x ∈ scattered.scenes, 0 ≤ x.sceneIndex) ∧
    (Workbook.build "demo" [] [[], []]).coverage scattered = 4 ∧
    (entries scattered.scenes 4).length = 4 ∧
    ∃ entry ∈ entries scattered.scenes 4,
      dispatched (entries scattered.scenes 4) 4 4 = some entry ∧ (entry.number : Int) = 4 := by
  have hindex : ∀ x ∈ scattered.scenes, 0 ≤ x.sceneIndex := by simp [scattered]
  have hcount : (Workbook.build "demo" [] [[], []]).coverage scattered = 4 := by decide
  have h := assemble_covers_scenes (Workbook.build "demo" [] [[], []]) scattered default hindex
  simp only [hcount] at h
  exact ⟨hindex, hcount, h.2.1, h.2.2.2.2 4 (by decide) (by decide)⟩

end Scripting

end SceneBook
