import SceneBook.Collate.Plugin
import SceneBook.Text.LowerCase
import SceneBook.Text.Similarity

/-!
# Registries

A registry holds plugins in the order of their registration, at most one for each tag. It
classifies the fragments of a workbook and collates the workbook language by language.
-/

namespace SceneBook

structure Registry where
  plugins : List Plugin
  tags_nodup : (plugins.map Plugin.tag).Nodup

namespace Registry

def empty : Registry := ⟨[], List.nodup_nil⟩

def tags (r : Registry) : List Text := r.plugins.map Plugin.tag

def known (r : Registry) : List Value := r.tags.map Value.text

def size (r : Registry) : Nat := r.plugins.length

def find? (r : Registry) (tag : Text) : Option Plugin := r.plugins.find? fun p => p.tag = tag

theorem tags_nodup_concat {r : Registry} {p : Plugin} (h : p.tag ∉ r.tags) :
    ((r.plugins ++ [p]).map Plugin.tag).Nodup := by
  rw [List.map_append, List.nodup_append]
  refine ⟨r.tags_nodup, by simp, ?_⟩
  intro a ha b hb
  rw [List.map_cons, List.map_nil, List.mem_singleton] at hb
  subst hb
  exact fun e => h (e ▸ ha)

def register (r : Registry) (p : Plugin) : Except Report Registry :=
  if h : p.tag ∈ r.tags then .error (.alreadyRegistered (.text p.tag))
  else .ok ⟨r.plugins ++ [p], tags_nodup_concat h⟩

/-- Registers a plugin that is offered under a tag, which has to be its own. -/
def provide [Limits] (r : Registry) (offered : Value) (p : Plugin) : Except Failure Registry :=
  if offered.text? ≠ some p.tag then
    .error (.misuse (offered.unshown?.getD (.otherTag p.tag offered.plain)))
  else (r.register p).mapError .report

theorem tags_nodup_filter (r : Registry) (keep : Plugin → Bool) :
    ((r.plugins.filter keep).map Plugin.tag).Nodup :=
  List.Sublist.nodup (List.Sublist.map _ List.filter_sublist) r.tags_nodup

def unregister (r : Registry) (tag : Text) : Registry :=
  ⟨r.plugins.filter fun p => p.tag ≠ tag, r.tags_nodup_filter _⟩

section

variable (r : Registry) (score : Text → Text → Score)

/-- The registered tag that scores highest with the wanted one in lower case, if one does well. -/
def suggestBy (tag : Text) : Option Text :=
  (Text.closest? score (Double.ofRatio false 60 1) tag.lower r.tags).map Prod.fst

def getBy (tag : Text) : Except Report Plugin :=
  match r.find? tag with
  | some p => .ok p
  | none => .error
    (.unknownLanguage (.text tag) r.known (((r.suggestBy score tag).map Value.text).getD .null))

/-- Looks a tag of any kind up. What is no text is never registered and like no tag. -/
def getValueBy [Limits] (tag : Value) : Except Failure Plugin :=
  match tag.text? with
  | some t => (r.getBy score t).mapError .report
  | none =>
    if tag.isKey then .error (Report.unknownLanguage tag r.known .null).failure
    else .error (.misuse .notAKey)

end

def suggest (r : Registry) : Text → Option Text := r.suggestBy Text.similarity

def get (r : Registry) : Text → Except Report Plugin := r.getBy Text.similarity

def getValue [Limits] (r : Registry) : Value → Except Failure Plugin := r.getValueBy Text.similarity

def suggestValue (r : Registry) (tag : Value) : Option Text := tag.text?.bind r.suggest

def containsValue (r : Registry) (tag : Value) : Except Misuse Bool :=
  if tag.isKey then .ok ((tag.text?.bind r.find?).isSome) else .error .notAKey

/-- Removes the plugin of a tag and tells whether there was one. From an empty registry nothing
is removed, and the tag is not looked at. -/
def unregisterValue (r : Registry) (tag : Value) : Except Misuse (Registry × Bool) :=
  if r.plugins.isEmpty then .ok (r, false)
  else match tag.text? with
    | some t => .ok (r.unregister t, (r.find? t).isSome)
    | none => if tag.isKey then .ok (r, false) else .error .notAKey

/-- Registers plugins one after the other up to the first whose tag is taken, and returns what
was registered by then. -/
def registerAll (r : Registry) : List Plugin → Registry × Except Report (List Text)
  | [] => (r, .ok [])
  | p :: rest =>
    match r.register p with
    | .error e => (r, .error e)
    | .ok r' =>
      let (final, tags) := registerAll r' rest
      (final, tags.map (p.tag :: ·))

def web (s : Settings) : Registry := (registerAll empty (Plugin.web s)).1

/-- Whether the language of a fragment is registered and its verdict is asked for. -/
def classifies (r : Registry) (overwrite : Bool) (f : Fragment) : Option Plugin :=
  (r.find? f.language).filter fun _ => overwrite || f.classification.isNone

def classifyFragment? (r : Registry) (overwrite : Bool) (f : Fragment) : Except Misuse Fragment :=
  match r.classifies overwrite f with
  | none => .ok f
  | some p => (p.language.classify? f.code).map fun c => { f with classification := some c }

def classifyScene? (r : Registry) (overwrite : Bool) (s : Scene) : Except Misuse Scene :=
  (s.fragments.mapM (r.classifyFragment? overwrite)).map fun fs => { s with fragments := fs }

/-- Stores a verdict with each fragment of a registered language, up to the first that cannot be
given. One that is there is kept unless it is to be overwritten. -/
def classifyWorkbook? (r : Registry) (overwrite : Bool) (w : Workbook) : Except Misuse Workbook :=
  (w.scenes.mapM (r.classifyScene? overwrite)).map fun ss => { w with scenes := ss }

def classifyFragment (r : Registry) (overwrite : Bool) (f : Fragment) : Fragment :=
  match r.classifies overwrite f with
  | none => f
  | some p => { f with classification := some (p.classify f.code) }

def classifyScene (r : Registry) (overwrite : Bool) (s : Scene) : Scene :=
  { s with fragments := s.fragments.map (r.classifyFragment overwrite) }

/-- The workbook with all the verdicts, where they can be given. -/
def classifyWorkbook (r : Registry) (overwrite : Bool) (w : Workbook) : Workbook :=
  { w with scenes := w.scenes.map (r.classifyScene overwrite) }

def collateAll (r : Registry) (w : Workbook) : Except Failure (List (Text × List Artifact)) :=
  r.plugins.mapM fun p => (p.collate w).map fun as => (p.tag, as)

/-- Collates the languages of some tags in their order, from what `extract` finds for each. -/
def collateWith [Limits] (r : Registry) (extract : Text → Extraction) (tags : List Value)
    (w : Workbook) :
    Except Failure (List (Text × List Artifact)) :=
  tags.mapM fun t => do
    let p ← r.getValue t
    let as ← p.collateExtraction w (extract p.tag)
    pure (p.tag, as)

def collateTags [Limits] (r : Registry) (tags : List Value) (w : Workbook) :
    Except Failure (List (Text × List Artifact)) :=
  r.collateWith w.extract tags w

end Registry

end SceneBook
