import SceneBook.Proofs.Collate.DispatchTable
import SceneBook.Proofs.Registry.Classification
import SceneBook.Proofs.Workbook.Numbering
import Mathlib.Data.List.Perm.Basic

/-!
# What the web artifacts hold

Each artifact is told from the lists of fragments alone: which fragments of a language its table
takes for definitions and which for evaluations, in document order, each with the position of its
scene. The artifacts that the web registry collates are exactly these.
-/

namespace SceneBook

namespace Language

/-- The fragments of the language in a scene whose text classifies in the mode. -/
def fragmentsIn (l : Language) (mode : Mode) (fragments : List Fragment) : List Fragment :=
  fragments.filter fun f => f.language = l.tag && (l.classify f.code).mode = mode

def codesIn (l : Language) (mode : Mode) (fragments : List Fragment) : List Text :=
  (l.fragmentsIn mode fragments).map Fragment.code

/-- The codes of a mode in document order, each with the position of its scene. -/
def placed (l : Language) (mode : Mode) (scenes : List (List Fragment)) : List (Nat × Text) :=
  scenes.zipIdx.flatMap fun p => (l.codesIn mode p.1).map fun code => (p.2, code)

/-- The codes of all fragments of the language in document order, whatever they classify as. -/
def allPlaced (l : Language) (scenes : List (List Fragment)) : List (Nat × Text) :=
  scenes.zipIdx.flatMap fun p =>
    (p.1.filter fun f => f.language = l.tag).map fun f => (p.2, f.code)

/-- The positions of the scenes that evaluate something, in increasing order, each with its
codes. -/
def evaluated (l : Language) (scenes : List (List Fragment)) : List (Nat × List Text) :=
  (scenes.zipIdx.map fun p => (p.2, l.codesIn .eval p.1)).filter fun g => !g.2.isEmpty

end Language

namespace Bundle

def templates (scenes : List (List Fragment)) : List Artifact :=
  if (Language.html.placed .define scenes).isEmpty then []
  else [⟨"templates.html", "html", .define,
    Text.join "\n" ((Language.html.placed .define scenes).map Prod.snd), none, none⟩]

def pages (scenes : List (List Fragment)) (element : Text) : List Artifact :=
  if (Language.html.evaluated scenes).isEmpty then []
  else [⟨"scenes.html", "html", .eval,
    Text.join "\n" ((Language.html.evaluated scenes).map fun g =>
      "<" ++ element ++ " scene=\"" ++ Text.ofNat (g.1 + 1) ++ "\">" ++ Text.join "\n" g.2 ++
        "</" ++ element ++ ">"), none, none⟩]

def styles (scenes : List (List Fragment)) : Artifact :=
  ⟨"styles.css", "css", .define,
    Text.join "\n" ((Language.css.allPlaced scenes).map fun p =>
      "/* Kram: CSS in Scene " ++ Text.ofNat (p.1 + 1) ++ " */\n" ++ p.2), none, none⟩

def shapes (scenes : List (List Fragment)) (nameSpace : Text) : Artifact :=
  ⟨"defs.svg", "svg", .define,
    "<svg xmlns=\"" ++ nameSpace ++ "\" style=\"display:none;\">\n<defs>" ++
      Text.join "\n" ((Language.svg.placed .define scenes).map Prod.snd) ++ "</defs></svg>",
    none, none⟩

def drawings (scenes : List (List Fragment)) (nameSpace : Text) : List Artifact :=
  (Language.svg.evaluated scenes).map fun g =>
    ⟨"scene-" ++ Text.ofNat (g.1 + 1) ++ ".svg", "svg", .eval,
      "<svg xmlns=\"" ++ nameSpace ++ "\">" ++ Text.join "\n" g.2 ++ "</svg>",
      some ((g.1 : Int) + 1), none⟩

def script (moduleName : Text) (scenes : List (List Fragment)) (s : Settings)
    (importLines : List Text) (rootKey : Text) : Artifact :=
  let definitions := (Language.js.placed .define scenes).flatMap fun p =>
    ["// JS Definition from scene " ++ Text.ofNat (p.1 + 1), p.2]
  let table := scenes.zipIdx.map fun p => Scripting.entryText (p.2 + 1) (Text.ofNat p.2)
    (Text.join "\n" (Language.js.codesIn .eval p.1))
  ⟨"module.js", "js", .eval,
    Scripting.moduleText (Scripting.headLines moduleName s importLines definitions) table rootKey
      scenes.length, none, some moduleName⟩

end Bundle

namespace Language

def itemsIn (l : Language) (mode : Mode) (start : Nat) (scenes : List (List Fragment)) :
    List Item :=
  (scenes.zipIdx start).flatMap fun p =>
    (l.fragmentsIn mode p.1).map fun f => ⟨p.2, f.attrs, f.code, l.classify f.code⟩

variable (l : Language) (mode : Mode) (start : Nat) (scenes : List (List Fragment))

private theorem itemsIn_cons (fragments : List Fragment) :
    l.itemsIn mode start (fragments :: scenes) =
      ((l.fragmentsIn mode fragments).map fun f => ⟨start, f.attrs, f.code, l.classify f.code⟩) ++
        l.itemsIn mode (start + 1) scenes := rfl

private theorem itemsIn_index {x : Item} (h : x ∈ l.itemsIn mode start scenes) :
    (start : Int) ≤ x.sceneIndex ∧ x.sceneIndex < start + scenes.length := by
  obtain ⟨p, hp, hx⟩ := List.mem_flatMap.mp h
  obtain ⟨f, _, rfl⟩ := List.mem_map.mp hx
  obtain ⟨hlo, hhi, _⟩ := List.mem_zipIdx hp
  exact ⟨by simpa using hlo, by simpa using (by omega : (p.2 : Int) < start + scenes.length)⟩

private theorem itemsIn_placed :
    (l.itemsIn mode 0 scenes).map (fun x => (x.sceneIndex, x.code)) =
      (l.placed mode scenes).map fun p => ((p.1 : Int), p.2) := by
  simp [itemsIn, placed, codesIn, List.map_flatMap, List.map_map, Function.comp_def]

/-- The groups of the evaluations are the scenes that evaluate something. -/
theorem groupByScene_itemsIn :
    Item.groupByScene "\n" (l.itemsIn mode start scenes) =
      (((scenes.zipIdx start).map fun p => (p.2, l.codesIn mode p.1)).filter
        fun g => !g.2.isEmpty).map fun g => ((g.1 : Int), Text.join "\n" g.2) := by
  induction scenes generalizing start with
  | nil => rfl
  | cons fragments rest ih =>
    let here : List Item :=
      (l.fragmentsIn mode fragments).map fun f => ⟨start, f.attrs, f.code, l.classify f.code⟩
    have hcodes : here.map Item.code = l.codesIn mode fragments := by
      simp [here, codesIn, List.map_map, Function.comp_def]
    rw [itemsIn_cons, List.zipIdx_cons, List.map_cons, List.filter_cons]
    by_cases hempty : l.codesIn mode fragments = []
    · have hnil : here = [] := List.map_eq_nil_iff.mp (hcodes.trans hempty)
      change Item.groupByScene "\n" (here ++ _) = _
      rw [hnil, List.nil_append, ih]
      simp [hempty]
    · have hne : here ≠ [] := fun hnil => hempty (by rw [← hcodes, hnil]; rfl)
      have hhere : ∀ x ∈ here, x.sceneIndex = start := by
        intro x hx
        obtain ⟨f, _, rfl⟩ := List.mem_map.mp hx
        rfl
      have hlater : ∀ x ∈ l.itemsIn mode (start + 1) rest, (start : Int) < x.sceneIndex := by
        intro x hx
        have := (itemsIn_index l mode (start + 1) rest hx).1
        omega
      change Item.groupByScene "\n" (here ++ _) = _
      rw [Item.groupByScene_append_of_lt _ hne hhere hlater, ih, hcodes]
      simp [hempty]

private theorem filter_itemsIn (i : Nat) (h : i < scenes.length) :
    ((l.itemsIn mode start scenes).filter fun x => x.sceneIndex = ((start + i : Nat) : Int)).map
      Item.code = l.codesIn mode scenes[i] := by
  induction scenes generalizing start i with
  | nil => simp at h
  | cons fragments rest ih =>
    rw [itemsIn_cons, List.filter_append]
    cases i with
    | zero =>
      have hlater : (l.itemsIn mode (start + 1) rest).filter
          (fun x => x.sceneIndex = ((start + 0 : Nat) : Int)) = [] := by
        refine List.filter_eq_nil_iff.mpr fun x hx => ?_
        have := (itemsIn_index l mode (start + 1) rest hx).1
        simp only [decide_eq_true_eq]
        omega
      rw [hlater, List.append_nil]
      simp [codesIn, List.filter_map, Function.comp_def]
    | succ i =>
      have hhere (fs : List Fragment) : (fs.map fun f => (⟨start, f.attrs, f.code,
          l.classify f.code⟩ : Item)).filter
            (fun x => x.sceneIndex = ((start + (i + 1) : Nat) : Int)) = [] := by
        refine List.filter_eq_nil_iff.mpr fun x hx => ?_
        obtain ⟨f, _, rfl⟩ := List.mem_map.mp hx
        simp only [decide_eq_true_eq]
        omega
      rw [hhere, List.nil_append, show start + (i + 1) = start + 1 + i by omega]
      exact ih (start + 1) i (by simpa using h)

end Language

/-- Classified by the registry of the web languages, a numbered workbook is split as its texts
classify. -/
theorem extract_classified_build (s : Settings) (moduleName : Text) (imports : List Import)
    (scenes : List (List Fragment)) {l : Language} (hl : l ∈ Language.web) :
    ((Registry.web s).classifyWorkbook true (Workbook.build moduleName imports scenes)).extract
      l.tag = ⟨l.itemsIn .eval 0 scenes, l.itemsIn .define 0 scenes⟩ := by
  let item (p : List Fragment × Nat) (f : Fragment) : Item :=
    ⟨p.2, f.attrs, f.code, l.classify f.code⟩
  have hitem (p : List Fragment × Nat) (f : Fragment) (hf : f.language = l.tag) :
      Item.ofFragment p.2 ((Registry.web s).classifyFragment true f) = item p f :=
    Registry.ofFragment_classified_web s hl hf p.2
  have hitems : ((Registry.web s).classifyWorkbook true
      (Workbook.build moduleName imports scenes)).items l.tag = scenes.zipIdx.flatMap fun p =>
        (p.1.filter fun f => f.language = l.tag).map (item p) := by
    rw [Registry.items_classifyWorkbook]
    simp only [Workbook.build, Workbook.scenesFrom_eq_zipIdx, List.flatMap_map,
      Scene.fragmentsOf]
    refine List.flatMap_congr fun p _ => List.map_congr_left fun f hf => ?_
    exact hitem p f (by simpa using (List.mem_filter.mp hf).2)
  have hsplit (mode : Mode) (keep : Item → Bool)
      (hkeep : ∀ p f, keep (item p f) = decide ((l.classify f.code).mode = mode)) :
      (scenes.zipIdx.flatMap fun p =>
        (p.1.filter fun f => f.language = l.tag).map (item p)).filter keep =
          l.itemsIn mode 0 scenes := by
    rw [List.filter_flatMap]
    refine List.flatMap_congr fun p _ => ?_
    rw [List.filter_map, List.filter_filter]
    simp only [Function.comp_def, hkeep, Language.fragmentsIn, Bool.and_comm]
    rfl
  rw [Workbook.extract_eq_filter, hitems, hsplit .eval _ fun p f => ?_,
    hsplit .define _ fun p f => ?_]
  · rfl
  · simp only [item, Classification.isDefinition]
    cases (l.classify f.code).mode <;> rfl

section

variable (s : Settings) (scenes : List (List Fragment))

private theorem map_itemsIn {α : Type} (l : Language) (mode : Mode) (f : Int × Text → α) :
    (l.itemsIn mode 0 scenes).map (fun x => f (x.sceneIndex, x.code)) =
      (l.placed mode scenes).map fun p => f ((p.1 : Int), p.2) := by
  have h := congrArg (List.map f) (l.itemsIn_placed mode scenes)
  simpa [List.map_map, Function.comp_def] using h

private theorem code_itemsIn (l : Language) (mode : Mode) :
    (l.itemsIn mode 0 scenes).map Item.code = (l.placed mode scenes).map Prod.snd :=
  map_itemsIn scenes l mode Prod.snd

private theorem isEmpty_itemsIn (l : Language) (mode : Mode) :
    (l.itemsIn mode 0 scenes).isEmpty = (l.placed mode scenes).isEmpty := by
  have h := congrArg List.isEmpty (code_itemsIn scenes l mode)
  simpa using h

private theorem isEmpty_evaluated (l : Language) :
    (l.itemsIn .eval 0 scenes).isEmpty = (l.evaluated scenes).isEmpty := by
  have hgroup := l.groupByScene_itemsIn .eval 0 scenes
  have hnil := Item.groupByScene_eq_nil_iff "\n" (l.itemsIn .eval 0 scenes)
  rw [hgroup, List.map_eq_nil_iff] at hnil
  rw [Bool.eq_iff_iff, List.isEmpty_iff, List.isEmpty_iff]
  exact hnil.symm

private theorem markup_itemsIn :
    Markup.collate
      ⟨Language.html.itemsIn .eval 0 scenes, Language.html.itemsIn .define 0 scenes⟩ s =
      Bundle.templates scenes ++ Bundle.pages scenes s.sceneElement.plain := by
  have hgroup := Language.html.groupByScene_itemsIn .eval 0 scenes
  unfold Markup.collate Markup.templates Markup.scenes Bundle.templates Bundle.pages
  rw [isEmpty_itemsIn, isEmpty_evaluated, code_itemsIn, hgroup, List.map_map]
  rfl

private theorem placed_css :
    Language.css.placed .define scenes = Language.css.allPlaced scenes := by
  unfold Language.placed Language.allPlaced Language.codesIn Language.fragmentsIn
  refine List.flatMap_congr fun p _ => ?_
  simp [Language.classify, Language.classify?, Language.css, Language.classifyBy, List.map_map,
    Function.comp_def]

private theorem styling_itemsIn :
    Styling.collate ⟨Language.css.itemsIn .eval 0 scenes, Language.css.itemsIn .define 0 scenes⟩ =
      [Bundle.styles scenes] := by
  let block (q : Int × Text) : Text :=
    Styling.provenance (Text.ofInt (q.1 + 1)) ++ "\n" ++ q.2
  have hblocks := map_itemsIn scenes Language.css .define block
  unfold Styling.collate Bundle.styles
  rw [show Styling.block = fun x => block (x.sceneIndex, x.code) from rfl, hblocks, placed_css]
  have hblock (p : Nat × Text) : block ((p.1 : Int), p.2) =
      "/* Kram: CSS in Scene " ++ Text.ofNat (p.1 + 1) ++ " */\n" ++ p.2 := by
    rw [show block ((p.1 : Int), p.2) = "/* Kram: CSS in Scene " ++ Text.ofNat (p.1 + 1) ++
      " */" ++ "\n" ++ p.2 from rfl, show (" */\n" : Text) = " */" ++ ("\n" : Text) from rfl]
    simp only [List.append_assoc]
  simp only [hblock]
  rfl

private theorem hidden_root (content nameSpace : Text) :
    Graphics.root ("\n<defs>" ++ content ++ "</defs>") nameSpace true =
      "<svg xmlns=\"" ++ nameSpace ++ "\" style=\"display:none;\">\n<defs>" ++ content ++
        "</defs></svg>" := by
  have hopen : ("\" style=\"display:none;\">\n<defs>" : Text) =
      "\"" ++ (" style=\"display:none;\"" ++ (">" ++ ("\n<defs>" : Text))) := rfl
  have hclose : ("</defs></svg>" : Text) = "</defs>" ++ ("</svg>" : Text) := rfl
  rw [hopen, hclose]
  simp only [Graphics.root, if_true, List.append_assoc]

private theorem shown_root (content nameSpace : Text) :
    Graphics.root content nameSpace false =
      "<svg xmlns=\"" ++ nameSpace ++ "\">" ++ content ++ "</svg>" := by
  have hopen : ("\">" : Text) = "\"" ++ (">" : Text) := rfl
  rw [hopen]
  simp [Graphics.root]

private theorem graphics_itemsIn :
    Graphics.collate
      ⟨Language.svg.itemsIn .eval 0 scenes, Language.svg.itemsIn .define 0 scenes⟩ s =
      Bundle.shapes scenes s.svgNamespace.plain :: Bundle.drawings scenes s.svgNamespace.plain := by
  have hgroup := Language.svg.groupByScene_itemsIn .eval 0 scenes
  have hscene (g : Nat × List Text) :
      Graphics.scene (g.1 : Int) (Text.join "\n" g.2) s.svgNamespace.plain =
        ⟨"scene-" ++ Text.ofNat (g.1 + 1) ++ ".svg", "svg", .eval,
          "<svg xmlns=\"" ++ s.svgNamespace.plain ++ "\">" ++ Text.join "\n" g.2 ++ "</svg>",
          some ((g.1 : Int) + 1), none⟩ := by
    rw [Graphics.scene, shown_root]
    rfl
  unfold Graphics.collate Graphics.shapes
  rw [code_itemsIn, hgroup, List.map_map, hidden_root]
  simp only [Function.comp_def, hscene]
  rfl

private theorem coverage_itemsIn {w : Workbook} (hcount : w.sceneCount = scenes.length)
    (definitions : List Item) (l : Language) :
    w.coverage ⟨l.itemsIn .eval 0 scenes, definitions⟩ = scenes.length := by
  have hspan : ¬ scenes.length < Item.span (l.itemsIn .eval 0 scenes) := by
    rw [Item.lt_span_iff]
    rintro ⟨x, hx, hle⟩
    have := (l.itemsIn_index .eval 0 scenes hx).2
    omega
  rw [← Scripting.span_eq_coverage, Workbook.span, hcount]
  exact Nat.max_eq_left (Nat.le_of_not_lt hspan)

private theorem table_itemsIn (l : Language) :
    (Scripting.entries (l.itemsIn .eval 0 scenes) scenes.length).map Scripting.Entry.text =
      scenes.zipIdx.map fun p => Scripting.entryText (p.2 + 1) (Text.ofNat p.2)
        (Text.join "\n" (l.codesIn .eval p.1)) := by
  apply List.ext_getElem
  · simp [Scripting.entries]
  · intro i hi _
    have hlt : i < scenes.length := by simpa [Scripting.entries] using hi
    have hcodes := l.filter_itemsIn .eval 0 scenes i hlt
    rw [Nat.zero_add] at hcodes
    simp [Scripting.entries, Scripting.Entry.text, Scripting.Entry.ofIndex, hcodes]

private theorem scripting_itemsIn {w : Workbook} (hcount : w.sceneCount = scenes.length)
    {importLines : List Text} {rootKey : Text} (himports : Import.lines w.imports = .ok importLines)
    (hkey : s.storeRootKey.json? = some rootKey) :
    Scripting.collate w
        ⟨Language.js.itemsIn .eval 0 scenes, Language.js.itemsIn .define 0 scenes⟩ s =
      .ok [Bundle.script w.moduleName scenes s importLines rootKey] := by
  let lines (q : Int × Text) : List Text :=
    ["// JS Definition from scene " ++ Text.ofInt (q.1 + 1), q.2]
  have hdefinitions : (Language.js.itemsIn .define 0 scenes).flatMap Scripting.definitionLines =
      (Language.js.placed .define scenes).flatMap fun p =>
        ["// JS Definition from scene " ++ Text.ofNat (p.1 + 1), p.2] := by
    rw [List.flatMap_def, List.flatMap_def]
    exact congrArg List.flatten (map_itemsIn scenes Language.js .define lines)
  have htext := (Scripting.assemble_eq_ok_iff w
    ⟨Language.js.itemsIn .eval 0 scenes, Language.js.itemsIn .define 0 scenes⟩ s _).mpr
      ⟨importLines, rootKey, himports, hkey, rfl⟩
  rw [coverage_itemsIn scenes hcount, table_itemsIn, hdefinitions] at htext
  rw [Scripting.collate, htext]
  rfl

private theorem placed_append_perm (l : Language) :
    (l.placed .define scenes ++ l.placed .eval scenes).Perm (l.allPlaced scenes) := by
  refine (List.flatMap_append_perm scenes.zipIdx _ _).trans ?_
  refine List.Perm.flatMap_left scenes.zipIdx fun p _ => ?_
  let own := p.1.filter fun f => f.language = l.tag
  let defines (f : Fragment) : Bool := (l.classify f.code).mode = .define
  have hdefine : own.filter defines = l.fragmentsIn .define p.1 := by
    rw [List.filter_filter]
    refine List.filter_congr fun f _ => ?_
    simp only [defines, Bool.and_comm]
  have heval : own.filter (fun f => !defines f) = l.fragmentsIn .eval p.1 := by
    rw [List.filter_filter]
    refine List.filter_congr fun f _ => ?_
    simp only [defines]
    cases (l.classify f.code).mode <;> simp
  have hsplit := (List.filter_append_perm defines own).map fun f => (p.2, f.code)
  rw [hdefine, heval, List.map_append] at hsplit
  simpa [Language.codesIn, List.map_map, Function.comp_def] using hsplit

end

/-- Collating a numbered workbook under the web registry gives every fragment of a web language its
one place: hoisted if its text classifies as a definition, and else in the scene it stands in. -/
theorem collateAll_classified_web (s : Settings) (w : Workbook) (importLines : List Text)
    (rootKey : Text) (hw : w.IsNumbered) (himports : Import.lines w.imports = .ok importLines)
    (hkey : s.storeRootKey.json? = some rootKey) :
    let scenes := w.scenes.map Scene.fragments
    (∃ classified, (Registry.web s).classifyWorkbook? true w = .ok classified ∧
      (Registry.web s).collateAll classified = .ok
        [("html", Bundle.templates scenes ++ Bundle.pages scenes s.sceneElement.plain),
          ("css", [Bundle.styles scenes]),
          ("svg", Bundle.shapes scenes s.svgNamespace.plain ::
            Bundle.drawings scenes s.svgNamespace.plain),
          ("js", [Bundle.script w.moduleName scenes s importLines rootKey])]) ∧
    ∀ l ∈ Language.web,
      (l.placed .define scenes ++ l.placed .eval scenes).Perm (l.allPlaced scenes) := by
  obtain ⟨moduleName, imports, lists, rfl⟩ := hw.eq_build
  intro scenes
  have hscenes : scenes = lists := Workbook.build_fragments moduleName imports lists
  rw [hscenes]
  refine ⟨⟨_, Registry.classifyWorkbook?_eq_ok true (Registry.web_answers s) _, ?_⟩,
    fun l _ => placed_append_perm lists l⟩
  let w := (Registry.web s).classifyWorkbook true (Workbook.build moduleName imports lists)
  have hcount : w.sceneCount = lists.length := by
    simp [w, Workbook.sceneCount, Registry.classifyWorkbook, Workbook.build,
      Workbook.scenesFrom_eq_zipIdx]
  have hextract {l : Language} (hl : l ∈ Language.web) :
      w.extract l.tag = ⟨l.itemsIn .eval 0 lists, l.itemsIn .define 0 lists⟩ :=
    extract_classified_build s moduleName imports lists hl
  have hhtml : Plugin.collate ⟨Language.html, s⟩ w =
      .ok (Bundle.templates lists ++ Bundle.pages lists s.sceneElement.plain) := by
    rw [Plugin.collate, Plugin.tag, hextract (by simp [Language.web]), ← markup_itemsIn]
    rfl
  have hcss : Plugin.collate ⟨Language.css, s⟩ w = .ok [Bundle.styles lists] := by
    rw [Plugin.collate, Plugin.tag, hextract (by simp [Language.web]), ← styling_itemsIn]
    rfl
  have hsvg : Plugin.collate ⟨Language.svg, s⟩ w =
      .ok (Bundle.shapes lists s.svgNamespace.plain ::
        Bundle.drawings lists s.svgNamespace.plain) := by
    rw [Plugin.collate, Plugin.tag, hextract (by simp [Language.web]), ← graphics_itemsIn]
    rfl
  have hjs : Plugin.collate ⟨Language.js, s⟩ w =
      .ok [Bundle.script moduleName lists s importLines rootKey] := by
    rw [Plugin.collate, Plugin.tag, hextract (by simp [Language.web])]
    exact scripting_itemsIn s lists hcount himports hkey
  change (Registry.web s).collateAll w = _
  unfold Registry.collateAll
  rw [Registry.web_plugins]
  simp [Plugin.web, Language.web, hhtml, hcss, hsvg, hjs, Except.map]
  rfl

/-- A template and a script that defines in one scene, nothing in the next, and two drawings around
a paragraph in the last. The last scene has a stored verdict that its text does not get. -/
def mixedScenes : List (List Fragment) :=
  [[⟨"html", "<template id='a'>", [], none⟩, ⟨"js", "const a = 1", [], none⟩], [],
    [⟨"svg", "<circle/>", [], some ⟨.define, none, none⟩⟩, ⟨"html", "<p>", [], none⟩,
      ⟨"svg", "<rect/>", [], none⟩]]

theorem collateAll_classified_mixed :
    let w := Workbook.build "demo" [] mixedScenes
    w.IsNumbered ∧ Import.lines w.imports = .ok [] ∧
    (default : Settings).storeRootKey.json? = some "\"root\"" ∧
    ∃ classified, (Registry.web default).classifyWorkbook? true w = .ok classified ∧
      ((Registry.web default).collateAll classified).map
        (fun found => found.map fun p => (p.1, p.2.map Artifact.name)) = .ok
        [("html", ["templates.html", "scenes.html"]), ("css", ["styles.css"]),
          ("svg", ["defs.svg", "scene-3.svg"]), ("js", ["module.js"])] := by
  intro w
  have hw : w.IsNumbered := Or.inl ⟨"demo", [], mixedScenes, rfl⟩
  obtain ⟨⟨classified, hclassified, hall⟩, -⟩ :=
    collateAll_classified_web default w [] "\"root\"" hw rfl rfl
  refine ⟨hw, rfl, rfl, classified, hclassified, ?_⟩
  rw [hall]
  rfl

end SceneBook
