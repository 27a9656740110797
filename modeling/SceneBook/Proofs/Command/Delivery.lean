import SceneBook.Files.Folder
import SceneBook.Proofs.Command.Collation
import SceneBook.Value.Equality

/-!
# Deliveries into a folder

A run that collates into a folder writes everything or nothing, as long as nothing breaks it off.
What does so before the first file is a tag that is no key or an import that cannot be reported. A
code with a lone surrogate does so after the artifacts in front of it have been written.
-/

namespace SceneBook

/-- A folder is at the path or can be made there, no folder stands where a file has to go, and the
path itself can be printed. -/
structure World.Receives (w : World) (out : Text) (as : List Artifact) : Prop where
  storable : out.isStorable = true
  notNull : .scalar '\x00' ∉ out
  makes : Run.makeFolder w (Path.ofText out).root (Path.ofText out).names.reverse = .ok ()
  free : ∀ a ∈ as, let entry := w.look ((Path.ofText out).child a.name)
    entry = .missing ∨ entry.isFile = true

namespace Outcome

structure Complete (o : Outcome) (folder : Path) (as : List Artifact) : Prop where
  exit : o.exit = .returned 0
  written : o.written = as.map (Artifact.file folder)

/-- Nothing is written and the run has failed with a message. -/
structure Untouched (o : Outcome) : Prop where
  exit : o.exit = .returned 1
  written : o.written = []

private theorem not_complete_or_untouched {o : Outcome} {m : Misuse} (hexit : o.exit = .broken m)
    {folder : Path} {P : List Artifact → Prop} :
    ¬ ((∃ as, P as ∧ o.Complete folder as) ∨ o.Untouched) := by
  rintro (⟨as, -, hcomplete⟩ | huntouched)
  · exact Exit.noConfusion (hexit.symm.trans hcomplete.exit)
  · exact Exit.noConfusion (hexit.symm.trans huntouched.exit)

end Outcome

/-- The artifact can be stored, and listed where a manifest is asked for. -/
def Artifact.IsDeliverable (json : Bool) (a : Artifact) : Prop :=
  a.code.isStorable = true ∧ (json = true → a.HasManifestScene)

namespace World

private theorem Receives.isFolder_eq_false {w : World} {out : Text} {as : List Artifact}
    (h : w.Receives out as) :
    ∀ a ∈ as, (w.look ((Path.ofText out).child a.name)).isFolder = false := by
  intro a ha
  rcases h.free a ha with hmissing | hfile
  · rw [hmissing]
    rfl
  · cases hentry : w.look ((Path.ofText out).child a.name) with
    | folder =>
      rw [hentry] at hfile
      cases hfile
    | _ => rfl

end World

namespace Run

section

variable {w : World} {request : CollateRequest} {out : Text} {as before : List Artifact}

private theorem deliver_eq (hout : request.out = some out) (hw : w.Receives out as) :
    let p := writeEach w (Path.ofText out) as
    (deliver w request as).written = p.written ∧
      (deliver w request as).result = p.result.bind fun _ =>
        if request.json then manifest false as else .ok (summary as out) := by
  have hnull : out.contains (.scalar '\x00') = false := by simpa using hw.notNull
  simp only [deliver, hout, hnull, hw.makes, Bool.false_eq_true, if_false, and_self]

private theorem deliver_storable (hout : request.out = some out) (hw : w.Receives out as)
    (hcodes : ∀ a ∈ as, a.code.isStorable = true) :
    (deliver w request as).written = as.map (Artifact.file (Path.ofText out)) ∧
      (deliver w request as).result =
        if request.json then manifest false as else .ok (summary as out) := by
  obtain ⟨hwritten, hresult⟩ := deliver_eq hout hw
  obtain ⟨hfiles, hok⟩ := writeEach_append [] hw.isFolder_eq_false hcodes
  rw [List.append_nil] at hfiles hok
  refine ⟨?_, ?_⟩
  · rw [hwritten, hfiles]
    exact List.append_nil _
  · rw [hresult, hok]
    rfl

private theorem deliver_unstorable {a : Artifact} {after : List Artifact}
    (hout : request.out = some out) (hw : w.Receives out (before ++ a :: after))
    (hcodes : ∀ x ∈ before, x.code.isStorable = true) (hcode : a.code.isStorable = false) :
    (deliver w request (before ++ a :: after)).written =
        before.map (Artifact.file (Path.ofText out)) ++ [((Path.ofText out).child a.name, [])] ∧
      (deliver w request (before ++ a :: after)).result = .error (.misuse .notStorable) := by
  have hfree := hw.isFolder_eq_false
  obtain ⟨hwritten, hresult⟩ := deliver_eq hout hw
  obtain ⟨hfiles, hrest⟩ := writeEach_append (a :: after)
    (fun x hx => hfree x (List.mem_append_left _ hx)) hcodes
  obtain ⟨hempty, hfails⟩ := writeEach_unstorable after (hfree a (by simp)) hcode
  rw [hwritten, hresult, hfiles, hrest, hempty, hfails]
  exact ⟨rfl, rfl⟩

end

section

variable {w : World} {arguments : List Text} {request : CollateRequest} {s : Settings}
  {b : Workbook} {out : Text} {as before : List Artifact}

namespace Collates

variable [Limits] (h : Collates w arguments request s b)

include h

private theorem exit_of_error {f : Failure}
    (hmade : (Registry.web s).made request.languages b = .error f) :
    (run w arguments).exit = exitOf (.error f) ∧ (run w arguments).written = [] := by
  have hshows := h.shows_error hmade
  exact ⟨hshows.exit, hshows.written⟩

theorem exit_of_storable (hmade : (Registry.web s).made request.languages b = .ok as)
    (hout : request.out = some out) (hw : w.Receives out as)
    (hcodes : ∀ a ∈ as, a.code.isStorable = true) :
    (run w arguments).written = as.map (Artifact.file (Path.ofText out)) ∧
      ((run w arguments).exit = .returned 0 ∧ (∀ a ∈ as, a.IsDeliverable request.json) ∨
        (run w arguments).exit = .broken .noJson ∧ ¬ ∀ a ∈ as, a.IsDeliverable request.json) := by
  have hshows := h.shows_deliver hmade
  obtain ⟨hwritten, hresult⟩ := deliver_storable hout hw hcodes
  refine ⟨hshows.written.trans hwritten, ?_⟩
  rw [hshows.exit, hresult]
  cases hjson : request.json with
  | false =>
    refine .inl ⟨rfl, fun a ha => ⟨hcodes a ha, fun htrue => ?_⟩⟩
    cases htrue
  | true =>
    -- Everything is written by now, and only the manifest can still fail.
    have hscenes := Registry.isSome_manifest?_iff hmade hcodes .pretty false
    rw [if_pos rfl, manifest]
    cases hmanifest : Artifact.manifest? .pretty false as with
    | some t =>
      have hall := hscenes.mp (Option.isSome_of_eq_some hmanifest)
      exact .inl ⟨rfl, fun a ha => ⟨hcodes a ha, fun _ => hall a ha⟩⟩
    | none =>
      refine .inr ⟨rfl, fun hall => ?_⟩
      have hsome := hscenes.mpr fun a ha => (hall a ha).2 rfl
      rw [hmanifest] at hsome
      cases hsome

private theorem exit_of_unstorable {a : Artifact} {after : List Artifact}
    (hmade : (Registry.web s).made request.languages b = .ok (before ++ a :: after))
    (hout : request.out = some out) (hw : w.Receives out (before ++ a :: after))
    (hcodes : ∀ x ∈ before, x.code.isStorable = true) (hcode : a.code.isStorable = false) :
    (run w arguments).exit = .broken .notStorable ∧ (run w arguments).written =
      before.map (Artifact.file (Path.ofText out)) ++ [((Path.ofText out).child a.name, [])] := by
  have hshows := h.shows_deliver hmade
  obtain ⟨hwritten, hresult⟩ := deliver_unstorable hout hw hcodes hcode
  refine ⟨?_, hshows.written.trans hwritten⟩
  rw [hshows.exit, hresult]
  rfl

private theorem complete_or_untouched_iff (hout : request.out = some out)
    (hw : ∀ as, (Registry.web s).made request.languages b = .ok as → w.Receives out as) :
    (∃ as, (Registry.web s).made request.languages b = .ok as ∧
        (run w arguments).Complete (Path.ofText out) as) ∨ (run w arguments).Untouched ↔
      (∀ m, (Registry.web s).made request.languages b ≠ .error (.misuse m)) ∧
        ∀ as, (Registry.web s).made request.languages b = .ok as →
          ∀ a ∈ as, a.IsDeliverable request.json := by
  constructor
  · intro hleft
    constructor
    · intro m hmade
      exact Outcome.not_complete_or_untouched (h.exit_of_error hmade).1 hleft
    · intro as hmade
      by_cases hcodes : ∀ a ∈ as, a.code.isStorable = true
      · obtain ⟨-, ⟨-, hall⟩ | ⟨hexit, -⟩⟩ := h.exit_of_storable hmade hout (hw as hmade) hcodes
        · exact hall
        · exact absurd hleft (Outcome.not_complete_or_untouched hexit)
      · -- The artifacts before the first that cannot be stored are on the disk already.
        obtain ⟨before, a, after, rfl, hbefore, ha⟩ := exists_first hcodes
        have hcode : a.code.isStorable = false := by simpa using ha
        have hfails := h.exit_of_unstorable hmade hout (hw _ hmade) hbefore hcode
        exact absurd hleft (Outcome.not_complete_or_untouched hfails.1)
  · rintro ⟨hkeys, hdeliverable⟩
    cases hmade : (Registry.web s).made request.languages b with
    | error f =>
      obtain ⟨hexit, hwritten⟩ := h.exit_of_error hmade
      cases f with
      | misuse m => exact absurd hmade (hkeys m)
      | report r => exact .inr ⟨hexit, hwritten⟩
      | file fault path => exact .inr ⟨hexit, hwritten⟩
    | ok as =>
      have hall := hdeliverable as hmade
      obtain ⟨hwritten, ⟨hexit, -⟩ | ⟨-, hnot⟩⟩ := h.exit_of_storable hmade hout (hw as hmade)
        fun a ha => (hall a ha).1
      · exact .inl ⟨as, rfl, hexit, hwritten⟩
      · exact absurd hall hnot

end Collates

end

/-- A run that collates into a folder writes everything and succeeds, or writes nothing and fails
with a message, exactly if nothing breaks the collation off and all that is made can be delivered.
What breaks it off are a tag that is no key and a key of an import that is too long to be reported,
and then nothing is written. Of artifacts that cannot all be stored those before the first such are
written, and an empty file for it. -/
theorem run_all_or_nothing_iff [Limits] {w : World} {arguments : List Text}
    {request : CollateRequest}
    {s : Settings} {b : Workbook} {out : Text} (h : Collates w arguments request s b)
    (hout : request.out = some out)
    (hw : ∀ as, (Registry.web s).made request.languages b = .ok as → w.Receives out as) :
    let o := run w arguments
    let folder := Path.ofText out
    let made := (Registry.web s).made request.languages b
    ((∃ as, made = .ok as ∧ o.Complete folder as) ∨ o.Untouched ↔
      (∀ m, made ≠ .error (.misuse m)) ∧
        ∀ as, made = .ok as → ∀ a ∈ as, a.IsDeliverable request.json) ∧
    (∀ m, made = .error (.misuse m) → o.exit = .broken m ∧ o.written = [] ∧
      ((m = .notAKey ∧ ∃ t ∈ request.languages, t.scalar? = none) ∨
        m = .tooLong ∧ ∃ v, .given v ∈ b.imports ∧ v.HasLongKey)) ∧
    (∀ before a after, made = .ok (before ++ a :: after) →
      (∀ x ∈ before, x.code.isStorable = true) → a.code.isStorable = false →
      o.exit = .broken .notStorable ∧
        o.written = before.map (Artifact.file folder) ++ [(folder.child a.name, [])]) ∧
    (b.sceneCount < 0x10000000000000000 → ∀ as, made = .ok as → ∀ a ∈ as, a.HasManifestScene) := by
  intro o folder made
  obtain ⟨moduleName, values, scenes, hbuild⟩ := Workbook.eq_build_of_load h.loads
  refine ⟨h.complete_or_untouched_iff hout hw, ?_, ?_, ?_⟩
  · intro m hmade
    obtain ⟨hexit, hwritten⟩ := h.exit_of_error hmade
    have hgiven : b.imports = values.map .given := by rw [hbuild, Workbook.build]
    refine ⟨hexit, hwritten, ?_⟩
    rcases Registry.made_misuse h.fault?_eq_none hgiven hmade with
      ⟨t, ht, htext, hwhy⟩ | ⟨hlong, v, hv, hkeys⟩
    · obtain ⟨hscalar, hkey⟩ := h.tag_of_misuse ht htext
      rcases hwhy with ⟨-, rfl⟩ | ⟨hlooked, -⟩
      · exact .inl ⟨rfl, t, ht, hscalar⟩
      · rw [hkey] at hlooked
        cases hlooked
    · exact .inr ⟨hlong, v, hgiven ▸ List.mem_map_of_mem hv, hkeys⟩
  · intro before a after hmade hcodes hcode
    exact h.exit_of_unstorable hmade hout (hw _ hmade) hcodes hcode
  · intro hcount as hmade
    exact Registry.hasManifestScene_of_made (.inl ⟨_, _, _, hbuild⟩) hcount hmade

def shelf (document : String) : World :=
  ⟨(Folder.ofFiles [("book.yaml", document.toList)]).look, [], [], Path.ofText "home"⟩

def halfStyle : String := "scenes:\n- - language: css\n    code: \"\\uD800\""

def halfStyleBook : Workbook :=
  .build "main" [] [[⟨"css", [.surrogate ⟨0xD800, by decide⟩], [], none⟩]]

def halfStyleRequest (languages : List Value) (json : Bool) : CollateRequest :=
  ⟨"book.yaml", languages, some "out", json⟩

private theorem loads_halfStyle (languages : List Value) (json : Bool) :
    Loads (shelf halfStyle) (halfStyleRequest languages json) halfStyleBook := by
  have hlook : (shelf halfStyle).look (Path.ofText "book.yaml") = .file halfStyle.toList := by rfl
  have hread : Yaml.read halfStyle.toList = .ok (.map [(.text "scenes", .list [.list
      [.map [(.text "language", .text "css"),
        (.text "code", .text [.surrogate ⟨0xD800, by decide⟩])]]])]) := by
    decide +kernel
  unfold Loads
  simp only [halfStyleRequest, hlook, Workbook.load, Workbook.ofFile, hread]
  rfl

theorem collates_halfStyle {arguments : List Text} {languages : List Value} {json : Bool}
    (h : Invocation.ofArguments arguments =
      .ok ⟨none, false, some (.collate (halfStyleRequest languages json))⟩) :
    Collates (shelf halfStyle) arguments (halfStyleRequest languages json) default
      halfStyleBook where
  asked := ⟨_, h, rfl, nofun, by rfl⟩
  loads := loads_halfStyle languages json

theorem receives_halfStyle {as : List Artifact}
    (h : ∀ a ∈ as, a.name = Artifact.shapesName ∨ a.name = Artifact.stylesName) :
    (shelf halfStyle).Receives "out" as where
  storable := by decide
  notNull := by decide
  makes := by rfl
  free a ha := by
    refine .inl ?_
    rcases h a ha with hname | hname
    · rw [hname]
      rfl
    · rw [hname]
      rfl

def noShapes : Artifact := Graphics.shapes [] (default : Settings).svgNamespace.plain

theorem isDeliverable_noShapes (json : Bool) : noShapes.IsDeliverable json :=
  ⟨by decide +kernel, fun _ => nofun⟩

/-- The style sheet with the half pair under its comment. -/
def halfStyleSheet : Artifact :=
  ⟨Artifact.stylesName, "css", .define,
    ("/* Kram: CSS in Scene 1 */\n" : Text) ++ [.surrogate ⟨0xD800, by decide⟩], none, none⟩

/-- The drawings do not need the style. -/
theorem run_all_or_nothing_iff_drawings :
    let w := shelf halfStyle
    let request := halfStyleRequest [.text "svg"] true
    let arguments : List Text := ["collate", "book.yaml", "-l", "svg", "-o", "out", "--json"]
    Collates w arguments request default halfStyleBook ∧
    (∀ as, (Registry.web default).made request.languages halfStyleBook = .ok as →
      w.Receives "out" as) ∧
    (Registry.web default).made request.languages halfStyleBook = .ok [noShapes] ∧
    (run w arguments).Complete (Path.ofText "out") [noShapes] := by
  intro w request arguments
  have hcollates : Collates w arguments request default halfStyleBook :=
    collates_halfStyle (by rfl)
  have hmade : (Registry.web default).made request.languages halfStyleBook = .ok [noShapes] := by
    rfl
  have hw : ∀ as, (Registry.web default).made request.languages halfStyleBook = .ok as →
      w.Receives "out" as := by
    intro as has
    obtain rfl := Except.ok.inj (hmade.symm.trans has)
    exact receives_halfStyle (by decide)
  have hkeys : ∀ m, (Registry.web default).made request.languages halfStyleBook ≠
      .error (.misuse m) := by
    intro m hm
    rw [hmade] at hm
    cases hm
  have hdeliverable : ∀ as, (Registry.web default).made request.languages halfStyleBook = .ok as →
      ∀ a ∈ as, a.IsDeliverable request.json := by
    intro as has
    obtain rfl := Except.ok.inj (hmade.symm.trans has)
    exact List.forall_mem_singleton.mpr (isDeliverable_noShapes request.json)
  obtain ⟨hiff, -⟩ := run_all_or_nothing_iff hcollates rfl hw
  refine ⟨hcollates, hw, hmade, ?_⟩
  rcases hiff.mpr ⟨hkeys, hdeliverable⟩ with ⟨as, has, hcomplete⟩ | huntouched
  · obtain rfl := Except.ok.inj (hmade.symm.trans has)
    exact hcomplete
  · obtain ⟨-, ⟨hexit, -⟩ | ⟨hexit, -⟩⟩ :=
      hcollates.exit_of_storable hmade rfl (hw _ hmade)
        (List.forall_mem_singleton.mpr (isDeliverable_noShapes true).1)
    · cases hexit.symm.trans huntouched.exit
    · cases hexit.symm.trans huntouched.exit

theorem style_half_written :
    let w := shelf halfStyle
    let request := halfStyleRequest [.text "svg", .text "css"] false
    let arguments : List Text := ["collate", "book.yaml", "-l", "svg", "-l", "css", "-o", "out"]
    let o := run w arguments
    Collates w arguments request default halfStyleBook ∧
    (Registry.web default).made request.languages halfStyleBook =
      .ok [noShapes, halfStyleSheet] ∧
    w.Receives "out" [noShapes, halfStyleSheet] ∧
    o.exit = .broken .notStorable ∧
    o.written = [noShapes.file (Path.ofText "out"), ((Path.ofText "out").child "styles.css", [])] ∧
    ¬ (o.Complete (Path.ofText "out") [noShapes, halfStyleSheet] ∨ o.Untouched) := by
  intro w request arguments o
  have hcollates : Collates w arguments request default halfStyleBook :=
    collates_halfStyle (by rfl)
  have hmade : (Registry.web default).made request.languages halfStyleBook =
      .ok ([noShapes] ++ halfStyleSheet :: []) := by
    rfl
  have hw : w.Receives "out" [noShapes, halfStyleSheet] := receives_halfStyle (by decide)
  obtain ⟨hexit, hwritten⟩ := hcollates.exit_of_unstorable hmade rfl hw
    (List.forall_mem_singleton.mpr (isDeliverable_noShapes false).1) (by decide +kernel)
  refine ⟨hcollates, hmade, hw, hexit, hwritten, ?_⟩
  rintro (hcomplete | huntouched)
  · exact Exit.noConfusion (hexit.symm.trans hcomplete.exit)
  · exact Exit.noConfusion (hexit.symm.trans huntouched.exit)

end Run

end SceneBook
