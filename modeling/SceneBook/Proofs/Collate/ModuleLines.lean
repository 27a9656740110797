import SceneBook.Proofs.Collate.DispatchTable
import SceneBook.Proofs.Results
import SceneBook.Proofs.Text.Lines

/-!
# Lines of a module

Below its head a module goes on in pairs of lines: a comment and a code for each definition, a
comment and a function for each entry of the dispatch table. As long as no code has a line feed of
its own, no line can be taken for another, so that the text of a module tells all that went into it.
-/

namespace SceneBook

open Text (lineFeed lines unlines)

/-- An item as the number of its scene and its code. -/
def Item.numbered (x : Item) : Int × Text := (x.sceneNumber, x.code)

namespace Extraction

/-- The code that a scene has in the grouping of the scene items; empty when it has none. -/
def body (e : Extraction) (i : Int) : Text := ((Item.groupByScene "\n" e.scenes).lookup i).getD []

/-- No definition and no scene has a code of more than one line. -/
structure IsFlat (e : Extraction) : Prop where
  definitions : ∀ d ∈ e.definitions, lineFeed ∉ d.code
  bodies : ∀ g ∈ Item.groupByScene "\n" e.scenes, lineFeed ∉ g.2

variable {e : Extraction} {i : Int}

private theorem body_eq_codeAt (e : Extraction) (i : Int) :
    e.body i = Item.codeAt "\n" i e.scenes :=
  Item.getD_lookup_groupByScene "\n" i e.scenes

private theorem IsFlat.body (h : e.IsFlat) (i : Int) : lineFeed ∉ e.body i := by
  rw [body_eq_codeAt]
  by_cases hi : i ∈ Item.indices e.scenes
  · have hgroup : (i, Item.codeAt "\n" i e.scenes) ∈ Item.groupByScene "\n" e.scenes := by
      rw [Item.groupByScene_eq]
      exact List.mem_map.mpr ⟨i, hi, rfl⟩
    exact h.bodies _ hgroup
  · rw [Item.codeAt_of_not_mem "\n" hi]
    exact List.not_mem_nil

private theorem body_eq_nil (h : ∀ x ∈ e.scenes, x.sceneIndex ≠ i) : e.body i = [] := by
  rw [body_eq_codeAt]
  refine Item.codeAt_of_not_mem "\n" fun hi => ?_
  obtain ⟨x, hx, hxi⟩ := (Item.mem_indices i e.scenes).mp hi
  exact h x hx hxi

end Extraction

namespace Scripting

def entryComment (i : Nat) : Text := "// JS scene " ++ Text.ofNat (i + 1)

def entryOpening (i : Nat) : Text := "\"" ++ Text.ofNat i ++ "\": function () \x7b "

/-- The entries of a table, the first of them under a given index. -/
def tableFrom : Nat → List Text → List Text
  | _, [] => []
  | i, body :: rest => tableEntry i body :: tableFrom (i + 1) rest

def tableRows : Nat → List Text → List Text
  | _, [] => []
  | i, [body] => [entryComment i, entryOpening i ++ body ++ " \x7d"]
  | i, body :: next :: rest =>
    entryComment i :: (entryOpening i ++ body ++ " \x7d,") :: tableRows (i + 1) (next :: rest)

variable {bodies bodies' : List Text} {i : Nat}

theorem tableEntry_eq (i : Nat) (body : Text) :
    tableEntry i body = entryComment i ++ "\n" ++ (entryOpening i ++ body ++ " \x7d") := by
  simp [tableEntry, entryComment, entryOpening, Text.ofString, Text.ofChars]

private theorem map_range'_tableEntry (body : Nat → Text) (i n : Nat) :
    (List.range' i n).map (fun k => tableEntry k (body k)) =
      tableFrom i ((List.range' i n).map body) := by
  induction n generalizing i with
  | zero => rfl
  | succ n ih =>
    rw [List.range'_succ, List.map_cons, List.map_cons, tableFrom, ih]

private theorem tableText_tableFrom (i : Nat) (bodies : List Text) :
    tableText (tableFrom i bodies) = unlines (tableRows i bodies) := by
  fun_induction tableRows i bodies with
  | case1 => rfl
  | case2 i body =>
    change tableEntry i body ++ "\n" = _
    rw [tableEntry_eq]
    simp [unlines]
  | case3 i body next rest ih =>
    let later := Text.join ",\n" (tableFrom (i + 1) (next :: rest))
    have hlater : later ++ "\n" = unlines (tableRows (i + 1) (next :: rest)) := ih
    have hcomma : (" \x7d" ++ ",\n" : Text) = " \x7d," ++ "\n" := rfl
    change Text.join ",\n" (tableEntry i body :: tableFrom (i + 1) (next :: rest)) ++ "\n" = _
    rw [Text.join_cons _ _ (by simp [tableFrom]), tableEntry_eq]
    calc entryComment i ++ "\n" ++ (entryOpening i ++ body ++ " \x7d") ++ ",\n" ++ later ++ "\n"
        = entryComment i ++ "\n" ++ (entryOpening i ++ body ++ (" \x7d" ++ ",\n")) ++
            (later ++ "\n") := by
          simp only [List.append_assoc]
      _ = entryComment i ++ "\n" ++ (entryOpening i ++ body ++ (" \x7d," ++ "\n")) ++
            unlines (tableRows (i + 1) (next :: rest)) := by
          rw [hlater, hcomma]
      _ = _ := by
          simp only [Text.unlines_cons, List.append_assoc]

private theorem entryComment_ne_tableFoot (i : Nat) : entryComment i ≠ tableFoot := by
  intro h
  have hhead : some (CodePoint.scalar '/') = some (.scalar ' ') := congrArg List.head? h
  cases hhead

theorem lineFeed_not_mem_entryComment (i : Nat) : lineFeed ∉ entryComment i := by
  have hnumber : lineFeed ∉ Text.ofNat (i + 1) := Text.not_mem_ofNat (by decide) (i + 1)
  have hwords : lineFeed ∉ ("// JS scene " : Text) := by decide
  simp [entryComment, hnumber, hwords]

theorem lineFeed_not_mem_entryOpening (i : Nat) : lineFeed ∉ entryOpening i := by
  have hnumber : lineFeed ∉ Text.ofNat i := Text.not_mem_ofNat (by decide) i
  have hquote : lineFeed ∉ ("\"" : Text) := by decide
  have hwords : lineFeed ∉ ("\": function () \x7b " : Text) := by decide
  simp [entryOpening, hnumber, hquote, hwords]

private theorem lineFeed_not_mem_tableRows (h : ∀ body ∈ bodies, lineFeed ∉ body) :
    ∀ row ∈ tableRows i bodies, lineFeed ∉ row := by
  have hclose : lineFeed ∉ (" \x7d" : Text) := by decide
  have hcomma : lineFeed ∉ (" \x7d," : Text) := by decide
  fun_induction tableRows i bodies with
  | case1 => simp
  | case2 i body =>
    have hbody : lineFeed ∉ body := h body (by simp)
    simp [lineFeed_not_mem_entryComment, lineFeed_not_mem_entryOpening, hbody, hclose]
  | case3 i body next rest ih =>
    have hbody : lineFeed ∉ body := h body (by simp)
    have hlater := ih fun b hb => h b (List.mem_cons_of_mem _ hb)
    intro row hrow
    rcases List.mem_cons.mp hrow with rfl | hrow
    · exact lineFeed_not_mem_entryComment i
    · rcases List.mem_cons.mp hrow with rfl | hrow
      · simp [lineFeed_not_mem_entryOpening, hbody, hcomma]
      · exact hlater row hrow

private theorem entry_ne_entry_comma (i : Nat) (body body' : Text) :
    entryOpening i ++ body ++ " \x7d" ≠ entryOpening i ++ body' ++ " \x7d," := by
  intro h
  have hlast : some (CodePoint.scalar '\x7d') = some (.scalar ',') := by
    simpa [Text.ofString, Text.ofChars] using congrArg List.getLast? h
  cases hlast

private theorem tableRows_inj {below below' : List Text}
    (h : tableRows i bodies ++ tableFoot :: below = tableRows i bodies' ++ tableFoot :: below') :
    bodies = bodies' := by
  -- The other list is split as far as this one: a list that ends too soon has the foot where a
  -- comment stands, and one that ends one entry later lacks the comma.
  fun_induction tableRows i bodies generalizing bodies' with
  | case1 i =>
    match bodies' with
    | [] => rfl
    | [_] => exact absurd (List.cons.inj h).1.symm (entryComment_ne_tableFoot i)
    | _ :: _ :: _ => exact absurd (List.cons.inj h).1.symm (entryComment_ne_tableFoot i)
  | case2 i body =>
    match bodies' with
    | [] => exact absurd (List.cons.inj h).1 (entryComment_ne_tableFoot i)
    | [body'] =>
      have hentry := (List.cons.inj (List.cons.inj h).2).1
      rw [List.append_cancel_left (List.append_cancel_right hentry)]
    | body' :: _ :: _ =>
      have hentry := (List.cons.inj (List.cons.inj h).2).1
      exact absurd hentry (entry_ne_entry_comma i body body')
  | case3 i body next rest ih =>
    match bodies' with
    | [] => exact absurd (List.cons.inj h).1 (entryComment_ne_tableFoot i)
    | [body'] =>
      have hentry := (List.cons.inj (List.cons.inj h).2).1
      exact absurd hentry.symm (entry_ne_entry_comma i body' body)
    | body' :: next' :: rest' =>
      obtain ⟨hentry, hlater⟩ := List.cons.inj (List.cons.inj h).2
      rw [List.append_cancel_left (List.append_cancel_right hentry), ih hlater]

/-- The lines of a module from its definitions to the foot of its table. -/
def moduleRows (definitions : List Item) (bodies : List Text) : List Text :=
  definitions.flatMap definitionLines ++ tableHead :: (tableRows 0 bodies ++ [tableFoot])

def moduleFoot (rootKey : Text) (count : Nat) : Text :=
  programFoot ++ "\n" ++ Text.join "\n" (mountOpening rootKey ++ dispatcherLines count) ++ "\n"

def tableBodies (w : Workbook) (e : Extraction) : List Text :=
  (List.range (w.span e)).map fun (i : Nat) => e.body i

private theorem lineFeed_not_mem_tableBodies {e : Extraction} (h : e.IsFlat) (w : Workbook) :
    ∀ body ∈ tableBodies w e, lineFeed ∉ body := by
  intro body hbody
  obtain ⟨i, _, rfl⟩ := List.mem_map.mp hbody
  exact h.body i

variable {definitions definitions' : List Item}

private theorem lineFeed_not_mem_moduleRows (hdefinitions : ∀ d ∈ definitions, lineFeed ∉ d.code)
    (hbodies : ∀ body ∈ bodies, lineFeed ∉ body) :
    ∀ row ∈ moduleRows definitions bodies, lineFeed ∉ row := by
  intro row hrow
  simp only [moduleRows, List.mem_append, List.mem_flatMap, List.mem_cons, List.not_mem_nil,
    or_false] at hrow
  rcases hrow with ⟨d, hd, hrow⟩ | rfl | hrow | rfl
  · have hnumber : lineFeed ∉ Text.ofInt d.sceneNumber :=
      Text.not_mem_ofInt (by decide) (by decide) d.sceneNumber
    have hwords : lineFeed ∉ ("// JS Definition from scene " : Text) := by decide
    rcases List.mem_pair.mp hrow with rfl | rfl
    · simp [hnumber, hwords]
    · exact hdefinitions d hd
  · decide
  · exact lineFeed_not_mem_tableRows hbodies row hrow
  · decide

private theorem definitionComment_ne_tableHead (n : Int) :
    "// JS Definition from scene " ++ Text.ofInt n ≠ tableHead := by
  intro h
  have hhead : some (CodePoint.scalar '/') = some (.scalar ' ') := congrArg List.head? h
  cases hhead

private theorem definitionLines_inj {below below' : List Text}
    (h : definitions.flatMap definitionLines ++ tableHead :: below =
      definitions'.flatMap definitionLines ++ tableHead :: below') :
    definitions.map Item.numbered = definitions'.map Item.numbered ∧ below = below' := by
  induction definitions generalizing definitions' with
  | nil =>
    cases definitions' with
    | nil => exact ⟨rfl, (List.cons.inj h).2⟩
    | cons d' rest' =>
      exact absurd (List.cons.inj h).1.symm (definitionComment_ne_tableHead d'.sceneNumber)
  | cons d rest ih =>
    cases definitions' with
    | nil => exact absurd (List.cons.inj h).1 (definitionComment_ne_tableHead d.sceneNumber)
    | cons d' rest' =>
      obtain ⟨hcomment, h⟩ := List.cons.inj h
      obtain ⟨hcode, h⟩ := List.cons.inj h
      have hnumber : d.sceneNumber = d'.sceneNumber :=
        Text.ofInt_injective (List.append_cancel_left hcomment)
      obtain ⟨hrest, hbelow⟩ := ih h
      exact ⟨by simp [Item.numbered, hnumber, hcode, hrest], hbelow⟩

private theorem moduleRows_inj {below below' : List Text}
    (h : moduleRows definitions bodies ++ below = moduleRows definitions' bodies' ++ below') :
    definitions.map Item.numbered = definitions'.map Item.numbered ∧ bodies = bodies' := by
  simp only [moduleRows, List.append_assoc, List.cons_append] at h
  obtain ⟨hdefinitions, htable⟩ := definitionLines_inj h
  exact ⟨hdefinitions, tableRows_inj htable⟩

private theorem definitionLines_congr
    (h : definitions.map Item.numbered = definitions'.map Item.numbered) :
    definitions.flatMap definitionLines = definitions'.flatMap definitionLines := by
  have hlines (ds : List Item) : ds.flatMap definitionLines =
      (ds.map Item.numbered).flatMap fun d =>
        ["// JS Definition from scene " ++ Text.ofInt d.1, d.2] := by
    rw [List.flatMap_map]
    rfl
  rw [hlines, hlines, h]

theorem map_text_entries (e : Extraction) (n : Nat) :
    (entries e.scenes n).map Entry.text =
      tableFrom 0 ((List.range n).map fun (i : Nat) => e.body i) := by
  rw [← table_groupByScene, table, List.range_eq_range']
  exact map_range'_tableEntry (fun i => e.body i) 0 n

private theorem moduleText_eq_unlines (head : List Text) (hhead : head ≠ [])
    (definitions : List Item) (bodies : List Text) (rootKey : Text) (n : Nat) :
    moduleText (head ++ definitions.flatMap definitionLines) (tableFrom 0 bodies) rootKey n =
      unlines head ++ (unlines (moduleRows definitions bodies) ++ moduleFoot rootKey n) := by
  have hopen : ("\n  return (\x7b\n" : Text) = "\n" ++ (tableHead ++ "\n") := rfl
  have hclose : ("  \x7d)\n\x7d\n" : Text) = tableFoot ++ "\n" ++ (programFoot ++ "\n") := rfl
  have hjoin : Text.join "\n" (head ++ definitions.flatMap definitionLines) ++ "\n" =
      unlines head ++ unlines (definitions.flatMap definitionLines) := by
    rw [Text.join_append_lineFeed (by simp [hhead]), Text.unlines_append]
  have hrows : unlines (moduleRows definitions bodies) =
      unlines (definitions.flatMap definitionLines) ++
        (tableHead ++ "\n" ++ (unlines (tableRows 0 bodies) ++ (tableFoot ++ "\n"))) := by
    simp only [moduleRows, Text.unlines_append, Text.unlines_cons]
    simp [unlines]
  rw [moduleText, tableText_tableFrom, hopen, hclose, ← List.append_assoc (Text.join _ _), hjoin,
    hrows, moduleFoot]
  simp only [List.append_assoc]

/-- A module is its head, which its imports, its name and the settings decide, then its rows, and
then what mounts it. -/
theorem assemble_eq_rows_iff (w : Workbook) (e : Extraction) (s : Settings) (text : Text) :
    assemble w e s = .ok text ↔ ∃ importLines rootKey,
      Import.lines w.imports = .ok importLines ∧ s.storeRootKey.json? = some rootKey ∧
      text = unlines (headLines w.moduleName s importLines []) ++
        (unlines (moduleRows e.definitions (tableBodies w e)) ++
          moduleFoot rootKey (w.span e)) := by
  have htext (importLines : List Text) (rootKey : Text) :
      moduleText (headLines w.moduleName s importLines (e.definitions.flatMap definitionLines))
        ((entries e.scenes (w.coverage e)).map Entry.text) rootKey (w.coverage e) =
      unlines (headLines w.moduleName s importLines []) ++
        (unlines (moduleRows e.definitions (tableBodies w e)) ++
          moduleFoot rootKey (w.span e)) := by
    have hhead : headLines w.moduleName s importLines (e.definitions.flatMap definitionLines) =
        headLines w.moduleName s importLines [] ++ e.definitions.flatMap definitionLines := by
      simp [headLines]
    rw [hhead, map_text_entries, moduleText_eq_unlines _ (by simp [headLines]), span_eq_coverage,
      tableBodies, span_eq_coverage]
  rw [assemble_eq_ok_iff]
  simp only [htext]

private theorem body_of_span_le {w : Workbook} {e : Extraction} {i : Int}
    (h : (w.span e : Int) ≤ i) :
    e.body i = [] := by
  apply Extraction.body_eq_nil
  intro x hx hxi
  have hlt := (Item.lt_span_iff i.toNat e.scenes).mpr ⟨x, hx, by omega⟩
  unfold Workbook.span at h
  omega

private theorem tableBodies_eq_iff {w w' : Workbook} {e e' : Extraction}
    (hindex : ∀ x ∈ e.scenes, 0 ≤ x.sceneIndex) (hindex' : ∀ x ∈ e'.scenes, 0 ≤ x.sceneIndex) :
    tableBodies w' e' = tableBodies w e ↔
      w'.span e' = w.span e ∧ ∀ i : Int, e'.body i = e.body i := by
  constructor
  · intro h
    have hcount : w'.span e' = w.span e := by simpa [tableBodies] using congrArg List.length h
    refine ⟨hcount, fun i => ?_⟩
    by_cases hneg : i < 0
    · rw [Extraction.body_eq_nil fun x hx hxi => ?_, Extraction.body_eq_nil fun x hx hxi => ?_]
      · have := hindex x hx
        omega
      · have := hindex' x hx
        omega
    · by_cases hlt : i < w.span e
      · obtain ⟨n, rfl⟩ := Int.eq_ofNat_of_zero_le (Int.not_lt.mp hneg)
        have hn : n < w.span e := by omega
        rw [tableBodies, tableBodies, hcount] at h
        exact List.map_inj_left.mp h n (List.mem_range.mpr hn)
      · have hle : (w.span e : Int) ≤ i := by omega
        rw [body_of_span_le hle, body_of_span_le (hcount.symm ▸ hle)]
  · rintro ⟨hcount, hbody⟩
    simp only [tableBodies, hcount, hbody]

/-- Where codes are of one line, a second module with the same name, imports and settings has the
same text exactly if it has as many entries, the same definitions and the same body for each
scene. -/
theorem assemble_eq_iff_contents (w w' : Workbook) (e e' : Extraction) (s : Settings) (text : Text)
    (hname : w'.moduleName = w.moduleName) (himports : w'.imports = w.imports)
    (hindex : ∀ x ∈ e.scenes, 0 ≤ x.sceneIndex) (hindex' : ∀ x ∈ e'.scenes, 0 ≤ x.sceneIndex)
    (hflat : e.IsFlat) (hflat' : e'.IsFlat) (htext : assemble w e s = .ok text) :
    assemble w' e' s = .ok text ↔
      w'.span e' = w.span e ∧
      e'.definitions.map Item.numbered = e.definitions.map Item.numbered ∧
      ∀ i : Int, e'.body i = e.body i := by
  obtain ⟨importLines, rootKey, hlines, hkey, rfl⟩ := (assemble_eq_rows_iff w e s text).mp htext
  rw [assemble_eq_rows_iff, hname, himports]
  constructor
  · rintro ⟨importLines', rootKey', hlines', hkey', heq⟩
    rw [hlines] at hlines'
    rw [hkey] at hkey'
    cases hlines'
    cases hkey'
    have hrows := congrArg lines (List.append_cancel_left heq)
    have hlined := lineFeed_not_mem_moduleRows hflat.definitions
      (lineFeed_not_mem_tableBodies hflat w)
    have hlined' :=
      lineFeed_not_mem_moduleRows hflat'.definitions (lineFeed_not_mem_tableBodies hflat' w')
    rw [Text.lines_unlines_append, Text.lines_unlines_append, Text.flatMap_lines hlined,
      Text.flatMap_lines hlined'] at hrows
    obtain ⟨hdefinitions, hbodies⟩ := moduleRows_inj hrows
    obtain ⟨hcount, hbody⟩ := (tableBodies_eq_iff hindex' hindex).mp hbodies
    exact ⟨hcount.symm, hdefinitions.symm, fun i => (hbody i).symm⟩
  · rintro ⟨hcount, hdefinitions, hbody⟩
    have hbodies := (tableBodies_eq_iff hindex hindex').mpr ⟨hcount, hbody⟩
    refine ⟨importLines, rootKey, hlines, hkey, ?_⟩
    rw [moduleRows, moduleRows, definitionLines_congr hdefinitions, hbodies, hcount]

/-- A definition that looks like the head of a table, and scenes that look like what is around
them. -/
def imitating : Extraction :=
  ⟨[⟨0, [], "// JS scene 2", .eval⟩, ⟨1, [], "  \x7d)", .eval⟩], [⟨0, [], "  return (\x7b", .eval⟩]⟩

/-- The same items, those of the scenes in another order. -/
def reordered : Extraction :=
  ⟨[⟨1, [], "  \x7d)", .eval⟩, ⟨0, [], "// JS scene 2", .eval⟩], imitating.definitions⟩

/-- The same items, with the codes of the scenes exchanged. -/
def exchanged : Extraction :=
  ⟨[⟨0, [], "  \x7d)", .eval⟩, ⟨1, [], "// JS scene 2", .eval⟩], imitating.definitions⟩

theorem imitating_text_told :
    ∃ text, assemble (Workbook.build "demo" [] []) imitating default = .ok text ∧
      assemble (Workbook.build "demo" [] []) reordered default = .ok text ∧
      assemble (Workbook.build "demo" [] []) exchanged default ≠ .ok text := by
  let w := Workbook.build "demo" [] []
  obtain ⟨text, htext⟩ : ∃ text, assemble w imitating default = .ok text := ⟨_, rfl⟩
  have hindex : ∀ x ∈ imitating.scenes, 0 ≤ x.sceneIndex := by decide
  have hflat : imitating.IsFlat := ⟨by decide, by decide⟩
  refine ⟨text, htext, ?_, fun h => ?_⟩
  · have hindex' : ∀ x ∈ reordered.scenes, 0 ≤ x.sceneIndex := by decide
    have hbodies : tableBodies w reordered = tableBodies w imitating := rfl
    have hbody := ((tableBodies_eq_iff hindex hindex').mp hbodies).2
    exact (assemble_eq_iff_contents w w imitating reordered default text rfl rfl hindex hindex'
      hflat ⟨by decide, by decide⟩ htext).mpr ⟨by decide, rfl, hbody⟩
  · have hbody := ((assemble_eq_iff_contents w w imitating exchanged default text rfl rfl hindex
      (by decide) hflat ⟨by decide, by decide⟩ htext).mp h).2.2
    exact absurd (hbody 0) (by decide)

end Scripting

end SceneBook
