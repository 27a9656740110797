import SceneBook.Proofs.Collate.ModuleLines
import SceneBook.Proofs.Text.ScriptLiteral

/-!
# Announcements

The literal by which a module announces itself escapes backslashes, single quotes and line feeds, so
that it ends where its text does and stands for its text. A carriage return is not escaped: with one
in its name the announcement of a module is not one line, and no literal.
-/

namespace SceneBook.Scripting

open ScriptLiteral
open Text (lineFeed unlines)

variable {barred : CodePoint → Bool} {t rest : Text} {c d : CodePoint}

structure IsRaw (c : CodePoint) : Prop where
  ne_backslash : c ≠ backslash
  ne_quote : c ≠ quote
  ne_lineFeed : c ≠ lineFeed

private theorem singleQuotedPoint_of_isRaw (h : IsRaw c) : singleQuotedPoint c = [c] :=
  (if_neg h.ne_backslash).trans ((if_neg h.ne_quote).trans (if_neg h.ne_lineFeed))

private theorem eq_of_not_isRaw (h : ¬ IsRaw c) : c = backslash ∨ c = quote ∨ c = lineFeed := by
  by_contra hne
  simp only [not_or] at hne
  exact h ⟨hne.1, hne.2.1, hne.2.2⟩

private theorem scan_escape {here : List Nat} (h : escape? (d :: rest) = some (here, 1)) :
    scan barred (backslash :: d :: rest) =
      (scan barred rest).map fun later => (here ++ later.1, later.2) := by
  have hquote : backslash ≠ quote := by decide
  rw [scan, if_neg hquote, if_pos rfl, h]
  rfl

/-- Any character reads back as its own units, unless it is barred and not escaped. -/
theorem scan_singleQuotedPoint (h : IsRaw c → barred c = false) (rest : Text) :
    scan barred (singleQuotedPoint c ++ rest) =
      (scan barred rest).map fun later => (c.units ++ later.1, later.2) := by
  by_cases hraw : IsRaw c
  · rw [singleQuotedPoint_of_isRaw hraw]
    exact scan_cons_of_isPlain ⟨hraw.ne_quote, hraw.ne_backslash, h hraw⟩ rest
  · rcases eq_of_not_isRaw hraw with rfl | rfl | rfl
    · exact scan_escape rfl
    · exact scan_escape rfl
    · exact scan_escape rfl

private theorem isRaw_carriageReturn : IsRaw carriageReturn := ⟨by decide, by decide, by decide⟩

theorem eq_carriageReturn_of_isRaw (h : IsRaw c) (hbreak : isLineBreak c = true) :
    c = carriageReturn := by
  rw [isLineBreak, Bool.or_eq_true, decide_eq_true_eq, decide_eq_true_eq] at hbreak
  exact hbreak.resolve_left h.ne_lineFeed

private theorem mem_singleQuotedPoint (h : isLineBreak c = true) :
    c ∈ singleQuotedPoint d ↔ c = carriageReturn ∧ d = carriageReturn := by
  by_cases hraw : IsRaw d
  · rw [singleQuotedPoint_of_isRaw hraw, List.mem_singleton]
    constructor
    · rintro rfl
      exact ⟨eq_carriageReturn_of_isRaw hraw h, eq_carriageReturn_of_isRaw hraw h⟩
    · rintro ⟨rfl, rfl⟩
      rfl
  · have hflat : ∀ b ∈ singleQuotedPoint d, isLineBreak b = false := by
      rcases eq_of_not_isRaw hraw with rfl | rfl | rfl <;> decide
    constructor
    · intro hc
      rw [hflat c hc] at h
      cases h
    · rintro ⟨-, rfl⟩
      exact absurd isRaw_carriageReturn hraw

private theorem singleQuoted_eq (t : Text) :
    singleQuoted t = quote :: (t.spell singleQuotedPoint ++ [quote]) := rfl

private theorem spell_cons (f : CodePoint → Text) (c : CodePoint) (t : Text) :
    Text.spell f (c :: t) = f c ++ Text.spell f t := rfl

private theorem scan_spell (h : ∀ c ∈ t, IsRaw c → barred c = false) (rest : Text) :
    scan barred (t.spell singleQuotedPoint ++ quote :: rest) = some (t.units, rest) := by
  induction t with
  | nil => exact scan_of_isPlain (t := []) nofun rest
  | cons c t ih =>
    have hlater := ih fun d hd => h d (by simp [hd])
    rw [spell_cons, List.append_assoc, scan_singleQuotedPoint (h c (by simp)), hlater]
    rfl

private theorem scan_spell_eq_none (hc : c ∈ t) (hraw : IsRaw c) (hbarred : barred c = true)
    (rest : Text) :
    scan barred (t.spell singleQuotedPoint ++ rest) = none := by
  induction t with
  | nil => cases hc
  | cons d t ih =>
    rw [spell_cons, List.append_assoc]
    by_cases hd : IsRaw d ∧ barred d = true
    · rw [singleQuotedPoint_of_isRaw hd.1, List.singleton_append, scan, if_neg hd.1.ne_quote,
        if_neg hd.1.ne_backslash, if_pos hd.2]
    · have hlater : c ∈ t := by
        rcases List.mem_cons.mp hc with rfl | hc
        · exact absurd ⟨hraw, hbarred⟩ hd
        · exact hc
      have hread : IsRaw d → barred d = false := fun hraw => by simpa [hraw] using hd
      rw [scan_singleQuotedPoint hread, ih hlater]
      rfl

private theorem scan_singleQuoted (t : Text) : ∃ body, singleQuoted t = quote :: body ∧
    scan (fun _ => false) body = some (t.units, []) :=
  ⟨_, singleQuoted_eq t, scan_spell (fun _ _ _ => rfl) []⟩

private theorem spells_singleQuoted_iff (t : Text) :
    Spells (singleQuoted t) t ↔ carriageReturn ∉ t := by
  constructor
  · rintro ⟨body, hbody, hscan⟩ hmem
    rw [singleQuoted_eq] at hbody
    obtain rfl := (List.cons.inj hbody).2
    rw [scan_spell_eq_none hmem isRaw_carriageReturn rfl] at hscan
    cases hscan
  · intro hmem
    refine ⟨_, singleQuoted_eq t, scan_spell (fun c hc hraw => ?_) []⟩
    rw [Bool.eq_false_iff]
    intro hbreak
    exact hmem (eq_carriageReturn_of_isRaw hraw hbreak ▸ hc)

private theorem mem_singleQuoted (h : isLineBreak c = true) :
    c ∈ singleQuoted t ↔ c = carriageReturn ∧ carriageReturn ∈ t := by
  have hquote : c ≠ quote := by
    rintro rfl
    cases h
  rw [singleQuoted_eq]
  simp only [List.mem_cons, List.mem_append, List.not_mem_nil, hquote, Text.spell,
    List.mem_flatMap, mem_singleQuotedPoint h, false_or, or_false]
  constructor
  · rintro ⟨d, hd, hc, rfl⟩
    exact ⟨hc, hd⟩
  · rintro ⟨hc, ht⟩
    exact ⟨carriageReturn, ht, hc, rfl⟩

private theorem mem_announcement (name : Text) :
    carriageReturn ∈ announcement name ↔ carriageReturn ∈ name := by
  have hopen : carriageReturn ∉ ("Loading module \"" : Text) := by decide
  have hclose : carriageReturn ∉ ("\"" : Text) := by decide
  simp only [announcement, List.mem_append, hopen, hclose, false_or, or_false]

private theorem assemble_announces {w : Workbook} {e : Extraction} {s : Settings} {text : Text}
    (h : assemble w e s = .ok text) (hannounce : s.announceLoad.isTruthy = true) :
    ∃ importLines below, Import.lines w.imports = .ok importLines ∧
      text = unlines (("// module " ++ commentSafe w.moduleName ++ " (ES6)") :: importLines) ++
        ("console.log(" ++ singleQuoted (announcement w.moduleName) ++ ")" ++ "\n") ++ below := by
  obtain ⟨importLines, rootKey, hlines, -, rfl⟩ := (assemble_eq_rows_iff w e s text).mp h
  let title : Text := "// module " ++ commentSafe w.moduleName ++ " (ES6)"
  let call : Text := "console.log(" ++ singleQuoted (announcement w.moduleName) ++ ")"
  have hhead : headLines w.moduleName s importLines [] =
      (title :: importLines) ++ [call, programHead] := by
    rw [headLines, if_pos hannounce, List.append_assoc]
    rfl
  have hcall : unlines [call, programHead] = call ++ "\n" ++ unlines [programHead] := rfl
  let below := unlines [programHead] ++
    (unlines (moduleRows e.definitions (tableBodies w e)) ++ moduleFoot rootKey (w.span e))
  refine ⟨importLines, below, hlines, ?_⟩
  rw [hhead, Text.unlines_append, hcall]
  simp only [below, call, title, List.append_assoc]

/-- The literal of an announcement has every quote and backslash escaped and reads back as the
announcement up to its closing quote. It is a literal of one line exactly if the name has no
carriage return. -/
theorem announcement_spells_iff (w : Workbook) (e : Extraction) (s : Settings) :
    let said := announcement w.moduleName
    let literal := singleQuoted said
    (∀ text, assemble w e s = .ok text → s.announceLoad.isTruthy = true →
      ∃ importLines below, Import.lines w.imports = .ok importLines ∧
        text = unlines (("// module " ++ commentSafe w.moduleName ++ " (ES6)") :: importLines) ++
          ("console.log(" ++ literal ++ ")" ++ "\n") ++ below) ∧
    (∃ body, literal = quote :: body ∧ scan (fun _ => false) body = some (said.units, [])) ∧
    lineFeed ∉ literal ∧
    (carriageReturn ∈ literal ↔ carriageReturn ∈ w.moduleName) ∧
    (Spells literal said ↔ carriageReturn ∉ w.moduleName) := by
  intro said literal
  refine ⟨fun text => assemble_announces, scan_singleQuoted said, ?_, ?_, ?_⟩
  · intro hmem
    obtain ⟨hc, -⟩ := (mem_singleQuoted (by decide)).mp hmem
    exact absurd hc (by decide)
  · rw [mem_singleQuoted (by decide), mem_announcement]
    simp only [true_and]
  · rw [spells_singleQuoted_iff, mem_announcement]

/-- A name with what the literal escapes. -/
theorem announcement_spells_quoted :
    ∃ text, assemble (Workbook.build "it's\n" [] []) ⟨[], []⟩ default = .ok text ∧
      Spells (singleQuoted (announcement "it's\n")) (announcement "it's\n") ∧
      ∃ above below, text = above ++
        ("console.log(" ++ "'Loading module \"it\\'s\\n\"'" ++ ")" ++ "\n") ++ below := by
  let w := Workbook.build "it's\n" [] []
  obtain ⟨text, htext⟩ : ∃ text, assemble w ⟨[], []⟩ default = .ok text := ⟨_, rfl⟩
  obtain ⟨hlines, -, -, -, hspells⟩ := announcement_spells_iff w ⟨[], []⟩ default
  obtain ⟨importLines, below, -, heq⟩ := hlines text htext rfl
  exact ⟨text, htext, hspells.mpr (by decide), _, below, heq⟩

/-- A name with a carriage return breaks the literal. -/
theorem carriageReturn_breaks_announcement :
    carriageReturn ∈ singleQuoted (announcement "a\x0db") ∧
      ¬ Spells (singleQuoted (announcement "a\x0db")) (announcement "a\x0db") := by
  have hname : carriageReturn ∈ announcement "a\x0db" := by decide
  refine ⟨(mem_singleQuoted rfl).mpr ⟨rfl, hname⟩, fun hspells => ?_⟩
  exact (spells_singleQuoted_iff _).mp hspells hname

end SceneBook.Scripting
