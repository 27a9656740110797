import SceneBook.Proofs.Value.Keys
import SceneBook.Proofs.Workbook.Documents
import Mathlib.Data.List.Nodup

/-!
# Drafts written as documents

A draft can be written down in many ways: its fields stand in any order, what is empty may be left
out, and a scene is a mapping or a bare list. Each of these documents is read back as the workbook
built from the draft, so the documents of different drafts are never read alike.
-/

namespace SceneBook

open Value

namespace Entries

/-- The ways to write a collection under a key: in full or, if it is empty, as nothing or null. -/
inductive Field {α : Type} (parts? : Value → Option (List α)) (key : Text) :
    List α → Entries Value → Prop
  | full {v : Value} {parts : List α} (h : parts? v = some parts) :
    Field parts? key parts [(.text key, v)]
  | leftOut : Field parts? key [] []
  | null : Field parts? key [] [(.text key, .null)]

/-- The ways to write a code: in full or, if it is empty, not at all. -/
inductive CodeField : Text → Entries Value → Prop
  | full (code : Text) : CodeField code [(.text "code", .text code)]
  | leftOut : CodeField [] []

/-- Entries made up of fields in any order, each under its own key or left out. -/
structure MadeOf (es : Entries Value) (fields : List (Text × Entries Value)) : Prop where
  order : es.Perm (fields.flatMap Prod.snd)
  apart : (fields.map Prod.fst).Nodup
  keys : ∀ field ∈ fields, field.2.keys.Sublist [.text field.1]

variable {α : Type} {parts? : Value → Option (List α)} {key : Text} {parts : List α}
  {es field : Entries Value} {fields : List (Text × Entries Value)}

private theorem Field.gives (h : Field parts? key parts es) :
    Gives parts? (es.field? key) parts := by
  cases h with
  | full h => simpa [field?, find?] using Gives.whole h
  | leftOut => exact .absent
  | null => simpa [field?, find?] using Gives.falsy rfl

private theorem Field.keys (h : Field parts? key parts es) : es.keys.Sublist [.text key] := by
  cases h with
  | full | null => exact List.Sublist.refl _
  | leftOut => exact List.nil_sublist _

private theorem CodeField.keys {code : Text} (h : CodeField code es) :
    es.keys.Sublist [.text "code"] := by
  cases h with
  | full => exact List.Sublist.refl _
  | leftOut => exact List.nil_sublist _

private theorem CodeField.field? {code : Text} (h : CodeField code es) :
    (es.field? "code").getD (.text []) = .text code := by
  cases h with
  | full => rfl
  | leftOut => rfl

private theorem keys_flatMap (h : ∀ field ∈ fields, field.2.keys.Sublist [.text field.1]) :
    (keys (fields.flatMap Prod.snd)).Sublist (fields.map fun field => .text field.1) := by
  induction fields with
  | nil => exact List.Sublist.refl _
  | cons field rest ih =>
    obtain ⟨hfirst, hrest⟩ := List.forall_mem_cons.mp h
    rw [List.flatMap_cons, keys, List.map_append, List.map_cons, ← List.singleton_append]
    exact hfirst.append (ih hrest)

private theorem MadeOf.distinct (h : MadeOf es fields) : Distinct (fields.flatMap Prod.snd) := by
  refine List.Pairwise.sublist (keys_flatMap h.keys) ?_
  have hapart := List.pairwise_map.mp h.apart
  refine List.pairwise_map.mpr (hapart.imp fun {a b} hab => ?_)
  rw [Scalar.text_same, decide_eq_false hab]

private theorem field?_flatMap_eq_none (h : ∀ field ∈ fields, field.2.keys.Sublist [.text field.1])
    (hkey : key ∉ fields.map Prod.fst) : field? (fields.flatMap Prod.snd) key = none := by
  refine find?_eq_none_iff.mpr fun k hk => ?_
  obtain ⟨field, hfield, rfl⟩ := List.mem_map.mp ((keys_flatMap h).subset hk)
  rw [Scalar.text_same, decide_eq_false (ne_of_mem_of_not_mem (List.mem_map_of_mem hfield) hkey)]

/-- A field is found where it was written, in whatever order the fields stand. -/
theorem MadeOf.field? (h : MadeOf es fields) (hmem : (key, field) ∈ fields) :
    es.field? key = field.field? key := by
  have hsame : es.field? key = Entries.field? (fields.flatMap Prod.snd) key :=
    find?_perm h.order h.distinct
  obtain ⟨-, hapart, hkeys⟩ := h
  -- The fields before and after this one stand under other keys.
  obtain ⟨before, after, rfl⟩ := List.append_of_mem hmem
  rw [List.map_append, List.map_cons, List.nodup_middle, List.nodup_cons, List.mem_append,
    not_or] at hapart
  have hbefore : Entries.field? (before.flatMap Prod.snd) key = none :=
    field?_flatMap_eq_none (fun f hf => hkeys f (by simp [hf])) hapart.1.1
  have hafter : Entries.field? (after.flatMap Prod.snd) key = none :=
    field?_flatMap_eq_none (fun f hf => hkeys f (by simp [hf])) hapart.1.2
  unfold Entries.field? at hsame hbefore hafter ⊢
  rw [hsame, List.flatMap_append, List.flatMap_cons, find?_append, find?_append, hbefore, hafter,
    Option.none_or, Option.or_none]

end Entries

namespace Fragment

structure IsPlain (f : Fragment) : Prop where
  named : f.language ≠ []
  unclassified : f.classification = none

instance (f : Fragment) : Decidable f.IsPlain :=
  decidable_of_iff (f.language ≠ [] ∧ f.classification = none)
    ⟨fun h => ⟨h.1, h.2⟩, fun h => ⟨h.named, h.unclassified⟩⟩

/-- A fragment is written as a mapping with its fields in any order. -/
inductive Written (f : Fragment) (v : Value) : Prop
  | fields {es code attrs : Entries Value} (hv : v.map? = some es)
    (hcode : Entries.CodeField f.code code) (hattrs : Entries.Field map? "attrs" f.attrs attrs)
    (horder : es.Perm ((.text "language", .text f.language) :: (code ++ attrs)))

private theorem Written.spells {f : Fragment} {v : Value} (h : f.Written v) (hf : f.IsPlain) :
    Spells v f := by
  cases h with
  | @fields es code attrs hv hcode hattrs horder =>
    have hfields : es.MadeOf [("language", [(.text "language", .text f.language)]),
        ("code", code), ("attrs", attrs)] := by
      have hapart : (["language", "code", "attrs"] : List Text).Nodup := by decide
      refine ⟨by simpa using horder, hapart, ?_⟩
      simp only [List.forall_mem_cons]
      exact ⟨List.Sublist.refl _, hcode.keys, hattrs.keys, nofun⟩
    have hlanguage : es.field? "language" = some (.text f.language) :=
      hfields.field? List.mem_cons_self
    have hfoundCode : es.field? "code" = code.field? "code" := hfields.field? (by simp)
    have hfoundAttrs : es.field? "attrs" = attrs.field? "attrs" := hfields.field? (by simp)
    refine ⟨es, hv, hlanguage, hf.named, ?_, ?_, hf.unclassified⟩
    · rw [hfoundCode, hcode.field?]
    · rw [hfoundAttrs]
      exact hattrs.gives

def document (f : Fragment) : Value :=
  .map [(.text "language", .text f.language), (.text "code", .text f.code),
    (.text "attrs", .map f.attrs)]

private theorem written_document (f : Fragment) : f.Written f.document :=
  .fields rfl (.full _) (.full rfl) (List.Perm.refl _)

end Fragment

namespace Scene

/-- A scene is written as the list of its fragments, or as a mapping that has the list. -/
inductive Written (fs : List Fragment) (v : Value) : Prop
  | bare {items : List Value} (hv : v.list? = some items)
    (h : List.Forall₂ Fragment.Written fs items)
  | mapping {es : Entries Value} {items : List Value} (hv : v.map? = some es)
    (hes : Entries.Field list? "fragments" items es) (h : List.Forall₂ Fragment.Written fs items)

private theorem Written.spells {fs : List Fragment} {v : Value} (h : Written fs v)
    (hfs : ∀ f ∈ fs, f.IsPlain) : Spells v fs := by
  have hitems {items : List Value} (h : List.Forall₂ Fragment.Written fs items) :
      List.Forall₂ Fragment.Spells items fs := by
    have hplain := (List.forall₂_and_left fs items).mpr ⟨hfs, h⟩
    exact (hplain.imp fun f v hf => hf.2.spells hf.1).flip
  cases h with
  | bare hv h => exact ⟨_, .bare hv, hitems h⟩
  | mapping hv hes h => exact ⟨_, .mapping hv hes.gives, hitems h⟩

def document (fs : List Fragment) : Value :=
  .map [(.text "fragments", .list (fs.map Fragment.document))]

private theorem written_document (fs : List Fragment) : Written fs (document fs) := by
  refine .mapping rfl (.full rfl) ?_
  exact List.forall₂_map_right_iff.mpr (List.forall₂_same.mpr fun f _ => f.written_document)

end Scene

/-- A workbook to be written down: its scenes are the lists of their fragments. -/
structure Draft where
  moduleName : Text
  imports : List Value
  scenes : List (List Fragment)
  named : moduleName ≠ []
  plain : ∀ fs ∈ scenes, ∀ f ∈ fs, f.IsPlain

namespace Draft

inductive NameField (name : Text) : Entries Value → Prop
  | brief : NameField name [(.text "module", .text name)]
  | whole : NameField name [(.text "module_name", .text name)]

/-- A draft is written as a mapping with its fields in any order. -/
inductive Written (d : Draft) (v : Value) : Prop
  | fields {es name imports scenes : Entries Value} {raw : List Value} (hv : v.map? = some es)
    (hname : NameField d.moduleName name)
    (himports : Entries.Field list? "imports" d.imports imports)
    (hscenes : Entries.Field list? "scenes" raw scenes)
    (hraw : List.Forall₂ Scene.Written d.scenes raw)
    (horder : es.Perm (name ++ (imports ++ scenes)))

def workbook (d : Draft) : Workbook :=
  .build d.moduleName (d.imports.map .given) d.scenes

variable {d : Draft} {v : Value}

private theorem NameField.exists_split {name : Text} {es : Entries Value} (h : NameField name es) :
    ∃ brief whole : Entries Value, es = brief ++ whole ∧
      brief.keys.Sublist [.text "module"] ∧ whole.keys.Sublist [.text "module_name"] ∧
        (brief.field? "module").or (whole.field? "module_name") = some (.text name) := by
  cases h with
  | brief => exact ⟨_, [], (List.append_nil _).symm, List.Sublist.refl _, List.nil_sublist _, rfl⟩
  | whole => exact ⟨[], _, rfl, List.nil_sublist _, List.Sublist.refl _, rfl⟩

private theorem Written.outlined (h : d.Written v) : ∃ es raw, v.map? = some es ∧
    Workbook.Outlined es d.moduleName d.imports raw ∧ List.Forall₂ Scene.Written d.scenes raw := by
  cases h with
  | @fields es name imports scenes raw hv hname himports hscenes hraw horder =>
    obtain ⟨brief, whole, rfl, hbrief, hwhole, hnamed⟩ := hname.exists_split
    have hfields : es.MadeOf [("module", brief), ("module_name", whole), ("imports", imports),
        ("scenes", scenes)] := by
      have hapart : (["module", "module_name", "imports", "scenes"] : List Text).Nodup := by decide
      refine ⟨by simpa using horder, hapart, ?_⟩
      simp only [List.forall_mem_cons]
      exact ⟨hbrief, hwhole, himports.keys, hscenes.keys, nofun⟩
    have hfoundBrief : es.field? "module" = brief.field? "module" := hfields.field? (by simp)
    have hfoundWhole : es.field? "module_name" = whole.field? "module_name" :=
      hfields.field? (by simp)
    have hfoundImports : es.field? "imports" = imports.field? "imports" := hfields.field? (by simp)
    have hfoundScenes : es.field? "scenes" = scenes.field? "scenes" := hfields.field? (by simp)
    refine ⟨es, raw, hv, ⟨?_, d.named, ?_, ?_⟩, hraw⟩
    · rw [hfoundBrief, hfoundWhole, hnamed]
      rfl
    · rw [hfoundImports]
      exact himports.gives
    · rw [hfoundScenes]
      exact hscenes.gives

private theorem Written.spells (h : d.Written v) : Workbook.Spells v d.workbook := by
  obtain ⟨es, raw, hv, hout, hraw⟩ := h.outlined
  have hplain := (List.forall₂_and_left d.scenes raw).mpr ⟨d.plain, hraw⟩
  have hscenes : List.Forall₂ Scene.Spells raw d.scenes :=
    (hplain.imp fun fs v hfs => hfs.2.spells hfs.1).flip
  exact ⟨es, d.imports, raw, hv, Workbook.spelledBy_iff.mpr ⟨d.scenes, hout, hscenes, rfl⟩⟩

private theorem workbook_injective {d e : Draft} (h : d.workbook = e.workbook) : d = e := by
  have hname : d.moduleName = e.moduleName := congrArg Workbook.moduleName h
  have himports : d.imports = e.imports := by
    have hmap : d.imports.map Import.given = e.imports.map Import.given :=
      congrArg Workbook.imports h
    exact List.map_injective_iff.mpr (fun _ _ hv => Import.given.inj hv) hmap
  have hscenes : d.scenes = e.scenes := by
    have hfragments := congrArg (fun w => w.scenes.map Scene.fragments) h
    simpa only [workbook, Workbook.build_fragments] using hfragments
  cases d
  cases e
  cases hname
  cases himports
  cases hscenes
  rfl

def document (d : Draft) : Value :=
  .map [(.text "module", .text d.moduleName), (.text "imports", .list d.imports),
    (.text "scenes", .list (d.scenes.map Scene.document))]

private theorem written_document (d : Draft) : d.Written d.document := by
  refine .fields rfl .brief (.full rfl) (.full rfl) ?_ (List.Perm.refl _)
  exact List.forall₂_map_right_iff.mpr (List.forall₂_same.mpr fun fs _ => Scene.written_document fs)

/-- A document is read back as the workbook that it was written from, however it was written, so
that the documents of different drafts are never read as the same workbook. -/
theorem ofDocument_written {d e : Draft} {v w : Value} (hd : d.Written v) (he : e.Written w) :
    Workbook.ofDocument v = .ok (.build d.moduleName (d.imports.map .given) d.scenes) ∧
      (Workbook.ofDocument v = Workbook.ofDocument w → d = e) := by
  have hv : Workbook.ofDocument v = .ok d.workbook := Workbook.ofDocument_eq_ok_iff.mpr hd.spells
  have hw : Workbook.ofDocument w = .ok e.workbook := Workbook.ofDocument_eq_ok_iff.mpr he.spells
  refine ⟨hv, fun hsame => workbook_injective ?_⟩
  rw [hv, hw] at hsame
  exact Except.ok.inj hsame

def deck : Draft where
  moduleName := "deck"
  imports := []
  scenes := [[⟨"css", "p {}", [], none⟩, ⟨"js", [], [(.text "id", .int 1)], none⟩], []]
  named := by decide
  plain := by decide

/-- The deck with its fields in another order, a bare scene, and what is empty left out. -/
def briefDeck : Value :=
  .map [
    (.text "scenes", .list [
      .list [
        .map [(.text "code", .text "p {}"), (.text "language", .text "css")],
        .map [(.text "language", .text "js"), (.text "attrs", .map [(.text "id", .int 1)])]],
      .map []]),
    (.text "module_name", .text "deck"),
    (.text "imports", .null)]

private theorem written_briefDeck : deck.Written briefDeck := by
  refine .fields rfl .whole .null (.full rfl) ?_ (List.perm_append_singleton _ _).symm
  refine .cons (.bare rfl (.cons ?_ (.cons ?_ .nil))) (.cons (.mapping rfl .leftOut .nil) .nil)
  · exact .fields rfl (.full _) .leftOut (List.Perm.swap _ _ _)
  · exact .fields rfl .leftOut (.full rfl) (List.Perm.refl _)

theorem ofDocument_written_deck :
    deck.Written briefDeck ∧ deck.Written deck.document ∧
    Workbook.ofDocument briefDeck =
      .ok (.build deck.moduleName (deck.imports.map .given) deck.scenes) ∧
    (Workbook.ofDocument briefDeck = Workbook.ofDocument deck.document → deck = deck) :=
  ⟨written_briefDeck, deck.written_document,
    ofDocument_written written_briefDeck deck.written_document⟩

end Draft

end SceneBook
