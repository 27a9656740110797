import SceneBook.Proofs.Collate.ModuleLines
import SceneBook.Proofs.Text.Runs

/-!
# Frames of entries

The function of an entry is written around the code of its scene, with one space on either side. So
the closing brace is always on the last line of the code, and where that line is a comment, it is in
the comment.
-/

namespace SceneBook.Scripting

open Text (lineFeed lines unlines lastLine)

/-- The last line of a code has nothing but a comment. -/
def endsInComment (code : Text) : Bool := Text.startsWith "//" (Text.skipBlanks (lastLine code))

/-- What comes after the code of an entry; the last entry has no comma. -/
def entryClosing (count i : Nat) : Text := if i + 1 < count then " \x7d," else " \x7d"

/-- What comes before the last line of a code on the line that it is written on. -/
def entryLead (i : Nat) (code : Text) : Text := if lineFeed ∈ code then [] else entryOpening i

/-- The lines of an entry, for a code of any number of lines. -/
def entryRows (count i : Nat) (body : Text) : List Text :=
  entryComment i :: lines (entryOpening i ++ body ++ entryClosing count i)

/-- The lines of a module above its table. -/
def moduleHeadRows (w : Workbook) (e : Extraction) (s : Settings) (importLines : List Text) :
    List Text :=
  (headLines w.moduleName s importLines (e.definitions.flatMap definitionLines)).flatMap lines

private theorem lines_entryComment (i : Nat) : lines (entryComment i) = [entryComment i] :=
  Text.fields_of_not_mem (lineFeed_not_mem_entryComment i)

private theorem flatMap_lines_tableRows (body : Nat → Text) {count i n : Nat} (h : count = i + n) :
    (tableRows i ((List.range' i n).map body)).flatMap lines =
      (List.range' i n).flatMap fun k => entryRows count k (body k) := by
  induction n generalizing i with
  | zero => rfl
  | succ n ih =>
    rw [List.range'_succ, List.map_cons, List.flatMap_cons, entryRows]
    cases n with
    | zero =>
      have hclosing : entryClosing count i = " \x7d" := if_neg (by omega)
      simp [tableRows, lines_entryComment, hclosing]
    | succ n =>
      have hclosing : entryClosing count i = " \x7d," := if_pos (by omega)
      have hlater := ih (i := i + 1) (by omega)
      rw [List.range'_succ, List.map_cons] at hlater
      rw [List.range'_succ, List.map_cons, tableRows, List.flatMap_cons, List.flatMap_cons, hlater]
      simp [lines_entryComment, hclosing]

private theorem flatMap_lines_moduleRows (w : Workbook) (e : Extraction) :
    (moduleRows e.definitions (tableBodies w e)).flatMap lines =
      (e.definitions.flatMap definitionLines).flatMap lines ++ tableHead ::
        (((List.range (w.span e)).flatMap fun (i : Nat) => entryRows (w.span e) i (e.body i)) ++
          [tableFoot]) := by
  have hhead : lines tableHead = [tableHead] := by decide
  have hfoot : lines tableFoot = [tableFoot] := by decide
  have hrows : (tableRows 0 (tableBodies w e)).flatMap lines =
      (List.range (w.span e)).flatMap fun (i : Nat) => entryRows (w.span e) i (e.body i) := by
    rw [tableBodies, List.range_eq_range']
    exact flatMap_lines_tableRows (fun i => e.body i) (Nat.zero_add _).symm
  simp only [moduleRows, List.flatMap_append, List.flatMap_cons, List.flatMap_nil, hrows, hhead,
    hfoot, List.singleton_append, List.append_nil]

/-- The lines of the whole module, with each entry of its table at its place. -/
theorem lines_assemble {w : Workbook} {e : Extraction} {s : Settings} {text : Text}
    (h : assemble w e s = .ok text) : ∃ importLines rootKey,
      Import.lines w.imports = .ok importLines ∧ s.storeRootKey.json? = some rootKey ∧
      lines text = moduleHeadRows w e s importLines ++ tableHead ::
        (((List.range (w.span e)).flatMap fun (i : Nat) => entryRows (w.span e) i (e.body i)) ++
          tableFoot :: lines (moduleFoot rootKey (w.span e))) := by
  obtain ⟨importLines, rootKey, hlines, hkey, rfl⟩ := (assemble_eq_rows_iff w e s text).mp h
  refine ⟨importLines, rootKey, hlines, hkey, ?_⟩
  have hhead : headLines w.moduleName s importLines (e.definitions.flatMap definitionLines) =
      headLines w.moduleName s importLines [] ++ e.definitions.flatMap definitionLines := by
    simp [headLines]
  rw [Text.lines_unlines_append, Text.lines_unlines_append, flatMap_lines_moduleRows,
    moduleHeadRows, hhead, List.flatMap_append]
  simp only [List.append_assoc, List.cons_append, List.nil_append]

variable {count i : Nat} {code : Text}

private theorem lineFeed_not_mem_entryClosing (count i : Nat) :
    lineFeed ∉ entryClosing count i := by
  unfold entryClosing
  split <;> decide

private theorem lastLine_entry (count i : Nat) (code : Text) :
    lastLine (entryOpening i ++ code ++ entryClosing count i) =
      entryLead i code ++ lastLine code ++ entryClosing count i := by
  rw [Text.lastLine_append_of_not_mem _ (lineFeed_not_mem_entryClosing count i), entryLead]
  by_cases h : lineFeed ∈ code
  · rw [Text.lastLine_append_of_mem _ h, if_pos h, List.nil_append]
  · have hopening : lastLine (entryOpening i) = entryOpening i :=
      Text.lastLine_of_not_mem (lineFeed_not_mem_entryOpening i)
    rw [Text.lastLine_append_of_not_mem _ h, hopening, if_neg h, Text.lastLine_of_not_mem h]

private theorem getLast?_entryRows (count i : Nat) (code : Text) :
    (entryRows count i code).getLast? =
      some (entryLead i code ++ lastLine code ++ entryClosing count i) := by
  have hne : lines (entryOpening i ++ code ++ entryClosing count i) ≠ [] := Text.fields_ne_nil _ _
  rw [entryRows, List.getLast?_cons_of_ne_nil hne, Text.getLast?_lines, lastLine_entry]

private theorem endsInComment_iff : endsInComment code = true ↔ ∃ indent comment,
    Text.isBlank indent = true ∧ lastLine code = indent ++ ("//" ++ comment) := by
  unfold endsInComment Text.startsWith Text.skipBlanks
  rw [Option.isSome_iff_exists]
  simp only [Text.dropPrefix?_eq_some_iff]
  constructor
  · rintro ⟨comment, hcomment⟩
    let indent := (lastLine code).takeWhile CodePoint.isBlank
    have hindent : Text.isBlank indent = true :=
      List.all_eq_true.mpr fun c hc => List.mem_takeWhile_imp hc
    have hline : lastLine code = indent ++ ("//" ++ comment) := by
      rw [← hcomment, List.takeWhile_append_dropWhile]
    exact ⟨indent, comment, hindent, hline⟩
  · rintro ⟨indent, comment, hindent, hline⟩
    have hblank : ∀ c ∈ indent, c.isBlank = true := List.all_eq_true.mp hindent
    have hslash : Text.Stops CodePoint.isBlank ("//" ++ comment) :=
      Text.stops_cons.mpr (by decide)
    exact ⟨comment, by rw [hline, Text.dropWhile_run hblank hslash]⟩

/-- The table of a module has the lines of each entry one after the other. The brace that closes an
entry, with the comma after it, ends the last line of the code, which begins with a comment exactly
if the code ends in one. -/
theorem entries_close_on_last_lines (w : Workbook) (e : Extraction) (s : Settings) (text : Text)
    (htext : assemble w e s = .ok text) :
    let n := w.span e
    (∃ importLines rootKey,
      Import.lines w.imports = .ok importLines ∧ s.storeRootKey.json? = some rootKey ∧
      lines text = moduleHeadRows w e s importLines ++ tableHead ::
        (((List.range n).flatMap fun (i : Nat) => entryRows n i (e.body i)) ++
          tableFoot :: lines (moduleFoot rootKey n))) ∧
    ∀ i < n,
      (entryRows n i (e.body i)).getLast? =
        some (entryLead i (e.body i) ++ lastLine (e.body i) ++ entryClosing n i) ∧
      (endsInComment (e.body i) = true ↔ ∃ indent comment, Text.isBlank indent = true ∧
        (entryRows n i (e.body i)).getLast? =
          some (entryLead i (e.body i) ++ (indent ++ ("//" ++ comment)) ++ entryClosing n i)) := by
  intro n
  refine ⟨lines_assemble htext, fun i _ => ⟨getLast?_entryRows n i (e.body i), ?_⟩⟩
  rw [endsInComment_iff, getLast?_entryRows]
  simp only [Option.some.injEq, List.append_cancel_right_eq, List.append_cancel_left_eq]

/-- A scene with nothing but a comment, and a scene after it. -/
def commented : Extraction :=
  ⟨[⟨0, [], "// done", .eval⟩, ⟨1, [], "b()", .eval⟩], []⟩

theorem entries_close_on_last_lines_commented :
    ∃ text, assemble (Workbook.build "demo" [] []) commented default = .ok text ∧
      endsInComment (commented.body 0) = true ∧
      (entryRows 2 0 (commented.body 0)).getLast? =
        some ("\"0\": function () \x7b // done \x7d," : Text) := by
  let w := Workbook.build "demo" [] []
  obtain ⟨text, htext⟩ : ∃ text, assemble w commented default = .ok text := ⟨_, rfl⟩
  have hrows := (entries_close_on_last_lines w commented default text htext).2 0 (by decide)
  exact ⟨text, htext, by decide, hrows.1⟩

/-- After the code of the entry and some blanks, a later line closes its function. -/
def ClosesBelow (entry : Text) (i : Nat) (code : Text) : Prop :=
  ∃ gap, Text.isBlank gap = true ∧ lineFeed ∈ gap ∧
    entry = entryComment i ++ "\n" ++ entryOpening i ++ code ++ gap ++ "\x7d"

private theorem not_closesBelow (i : Nat) (code : Text) :
    ¬ ClosesBelow (tableEntry i code) i code := by
  rintro ⟨gap, _, hgap, hentry⟩
  have hclose : (" \x7d" : Text) = " " ++ "\x7d" := rfl
  rw [tableEntry_eq, hclose] at hentry
  simp only [← List.append_assoc, List.append_cancel_right_eq, List.append_cancel_left_eq] at hentry
  rw [← hentry] at hgap
  exact absurd hgap (by decide)

/-- Of two entries the first ends in a comment, and what closes it is in the comment. -/
theorem comment_closes_entry :
    ∃ text above below, assemble (Workbook.build "demo" [] []) commented default = .ok text ∧
      text = above ++ "  return (\x7b\n" ++ (tableEntry 0 (commented.body 0) ++ ",\n" ++
        tableEntry 1 (commented.body 1) ++ "\n") ++ below ∧
      endsInComment (commented.body 0) = true ∧
      ¬ ClosesBelow (tableEntry 0 (commented.body 0)) 0 (commented.body 0) := by
  let w := Workbook.build "demo" [] []
  obtain ⟨text, htext⟩ : ∃ text, assemble w commented default = .ok text := ⟨_, rfl⟩
  obtain ⟨importLines, rootKey, -, -, heq⟩ := (assemble_eq_ok_iff w commented default text).mp htext
  have hopen : ("\n  return (\x7b\n" : Text) = "\n" ++ "  return (\x7b\n" := rfl
  have hcount : w.coverage commented = 2 := by decide
  have htable : tableText ((entries commented.scenes 2).map Entry.text) =
      tableEntry 0 (commented.body 0) ++ ",\n" ++ tableEntry 1 (commented.body 1) ++ "\n" := by
    rw [map_text_entries]
    rfl
  rw [hcount, moduleText, htable, hopen, ← List.append_assoc (Text.join _ _), List.append_assoc,
    List.append_assoc] at heq
  exact ⟨text, _, _, htext, heq, by decide, not_closesBelow 0 (commented.body 0)⟩

end SceneBook.Scripting
