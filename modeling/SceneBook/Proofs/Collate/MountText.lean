import SceneBook.Proofs.Collate.DispatchTable
import SceneBook.Proofs.Text.JsonLiteral
import SceneBook.Proofs.Text.Template

/-!
# The mounting part of a module

A module ends in the code that mounts it on a store. It is one template for all modules, with two
places for the root key and one for the number of scenes. Both places of the key get one literal,
which stands for the key whatever characters are in it, dollar signs among them.
-/

namespace SceneBook.Scripting

/-- The lines that mount a module, with the places of the root key and of the scene count. -/
def mountTemplate : Text := Text.join "\n" (mountLines "$root_key" "$scene_count")

/-- The mounting part up to the key of the store. -/
def storeOpening : Text :=
  Text.join "\n" ["export function mount (mountpoint, initial) \x7b", "  const Store = \x7b",
    "    "]

/-- From the key of the store to the path that is connected to by default. -/
def pathOpening : Text :=
  Text.join "\n" [": Object.assign(\x7b\x7d, initial),", "  \x7d;",
    "  const connectStore = (path = ["]

/-- From the default path to the scene count. -/
def countOpening : Text :=
  Text.join "\n" ("]) => \x7b" :: (((mountLines [] []).drop 5).take 15 ++
    [("  const sceneCount = " : Text)]))

/-- What follows the scene count. -/
def dispatcher : Text := Text.join "\n" (";" :: (mountLines [] []).drop 21)

private theorem join_mountLines (rootKey count : Text) :
    Text.join "\n" (mountLines rootKey count) =
      storeOpening ++ rootKey ++ pathOpening ++ rootKey ++ countOpening ++ count ++ dispatcher := by
  let blank := mountLines [] []
  have hlines : mountLines rootKey count = blank.take 2 ++
      ("    " ++ rootKey ++ ": Object.assign(\x7b\x7d, initial),") :: ([("  \x7d;" : Text)] ++
        ("  const connectStore = (path = [" ++ rootKey ++ "]) => \x7b") ::
          ((blank.drop 5).take 15 ++ ("  const sceneCount = " ++ count ++ ";") :: blank.drop 21)) :=
    rfl
  rw [hlines, Text.join_cut, ← List.cons_append, Text.join_cut, ← List.cons_append, Text.join_cut]
  change storeOpening ++ rootKey ++ (pathOpening ++ rootKey ++ (countOpening ++ count ++
    dispatcher)) = _
  simp only [List.append_assoc]

open Template (sign)

private theorem sign_not_mem_storeOpening : sign ∉ storeOpening := by decide

private theorem sign_not_mem_pathOpening : sign ∉ pathOpening := by decide

private theorem sign_not_mem_countOpening : sign ∉ countOpening := by decide +kernel

private theorem sign_not_mem_dispatcher : sign ∉ dispatcher := by decide +kernel

/-- Whatever the values are, the places of the template are filled with them. -/
theorem fill_mountTemplate (rootKey count : Text) :
    Template.fill [("root_key", rootKey), ("scene_count", count)] mountTemplate =
      .ok (Text.join "\n" (mountLines rootKey count)) := by
  have hrootKey : ("$root_key" : Text) = sign :: "root_key" := rfl
  have hsceneCount : ("$scene_count" : Text) = sign :: "scene_count" := rfl
  simp only [mountTemplate, join_mountLines, hrootKey, hsceneCount, List.append_assoc,
    List.cons_append]
  apply Template.fill_text sign_not_mem_storeOpening
  apply Template.fill_place (by decide) (by decide) (by decide) rfl
  apply Template.fill_text sign_not_mem_pathOpening
  apply Template.fill_place (by decide) (by decide) (by decide) rfl
  apply Template.fill_text sign_not_mem_countOpening
  apply Template.fill_place (by decide) (by decide) (by decide) rfl
  exact Template.fill_of_not_mem sign_not_mem_dispatcher

/-- A module up to its mounting part. -/
def programText (head table : List Text) : Text :=
  Text.join "\n" head ++ "\n  return (\x7b\n" ++ tableText table ++ "  \x7d)\n\x7d\n"

private theorem moduleText_eq (head table : List Text) (rootKey : Text) (count : Nat) :
    moduleText head table rootKey count =
      programText head table ++ Text.join "\n" (mountLines rootKey (Text.ofNat count)) ++ "\n" :=
  rfl

/-- For every root key without lone surrogates the mounting part is the template with its places
filled. The key of the store and the default path are one literal of printable ASCII, which stands
for the root key, and the scene count is the number of entries. All else in the module is the same
for every key. -/
theorem mount_text_filled (w : Workbook) (e : Extraction) (s : Settings) (key : Text)
    (hkey : ∀ c ∈ key, c.isSurrogate = false) :
    let literal := key.asciiJson
    let table := (entries e.scenes (w.coverage e)).map Entry.text
    let count := Text.ofNat table.length
    let mount := storeOpening ++ literal ++ pathOpening ++ literal ++ countOpening ++ count ++
      dispatcher
    (∀ text, assemble w e { s with storeRootKey := .text key } = .ok text ↔
      ∃ importLines, Import.lines w.imports = .ok importLines ∧
        text = programText
          (headLines w.moduleName s importLines (e.definitions.flatMap definitionLines)) table ++
            mount ++ "\n") ∧
    Template.fill [("root_key", literal), ("scene_count", count)] mountTemplate = .ok mount ∧
    JsonLiteral.Spells literal key ∧
    ∀ c ∈ literal, JsonLiteral.IsPrintable c := by
  intro literal table count mount
  have hmount : Text.join "\n" (mountLines literal (Text.ofNat table.length)) = mount :=
    join_mountLines literal count
  refine ⟨fun text => ?_, ?_, JsonLiteral.spells_asciiJson hkey,
    JsonLiteral.isPrintable_asciiJson key⟩
  · have hlength : table.length = w.coverage e := by simp [table, entries]
    rw [hlength] at hmount
    rw [assemble_eq_ok_iff]
    constructor
    · rintro ⟨importLines, rootKey, himports, hjson, rfl⟩
      obtain rfl : literal = rootKey := Option.some.inj hjson
      exact ⟨importLines, himports, by rw [moduleText_eq, hmount]; rfl⟩
    · rintro ⟨importLines, himports, rfl⟩
      exact ⟨importLines, literal, himports, rfl, by rw [moduleText_eq, hmount]; rfl⟩
  · rw [fill_mountTemplate, hmount]

/-- A key with dollar signs, quotes, a backslash, a control and a character of two units. -/
def oddKey : Text := "$root_key'\"\\\n$scene_count😀"

theorem mount_text_filled_odd :
    let literal : Text := "\"$root_key'\\\"\\\\\\n$scene_count\\ud83d\\ude00\""
    let w := Workbook.build "demo" [] [[], []]
    (∀ c ∈ oddKey, c.isSurrogate = false) ∧
    (∃ text, assemble w ⟨[], []⟩ { (default : Settings) with storeRootKey := .text oddKey } =
      .ok text) ∧
    Template.fill [("root_key", literal), ("scene_count", "2")] mountTemplate =
      .ok (storeOpening ++ literal ++ pathOpening ++ literal ++ countOpening ++ "2" ++
        dispatcher) ∧
    JsonLiteral.Spells literal oddKey := by
  intro literal w
  have hkey : ∀ c ∈ oddKey, c.isSurrogate = false := by decide
  have hliteral : oddKey.asciiJson = literal := by decide +kernel
  have hcount : Text.ofNat ((entries [] (w.coverage ⟨[], []⟩)).map Entry.text).length = "2" := by
    decide
  obtain ⟨htext, hfill, hspells, -⟩ := mount_text_filled w ⟨[], []⟩ default oddKey hkey
  rw [hliteral] at hspells
  rw [hliteral, hcount] at hfill
  exact ⟨hkey, ⟨_, (htext _).mpr ⟨[], rfl, rfl⟩⟩, hfill, hspells⟩

end SceneBook.Scripting
