import SceneBook.Artifact
import SceneBook.Proofs.Text.JsonReading

/-!
# Manifests read back

Whoever reads a manifest as JSON finds the parts of the artifacts in it, each under its key,
whatever characters are in them and wherever the manifest breaks its lines.
-/

namespace SceneBook.Artifact

open JsonReading

/-- Between the signs of a manifest there is white space alone. -/
structure Layout.IsJson (layout : Layout) : Prop where
  itemBreak : ∀ c ∈ layout.itemBreak, isSpace c
  partBreak : ∀ c ∈ layout.partBreak, isSpace c
  endBreak : ∀ c ∈ layout.endBreak, isSpace c
  colon : ∃ gap, layout.colon = .scalar ':' :: gap ∧ ∀ c ∈ gap, isSpace c

theorem Layout.isJson_pretty : Layout.pretty.IsJson :=
  ⟨by decide, by decide, by decide, " ", rfl, by decide⟩

theorem Layout.isJson_compact : Layout.compact.IsJson :=
  ⟨by decide, by decide, by decide, [], rfl, by decide⟩

variable {layout : Layout}

private theorem reads_part {v : Value} {t gap : Text} (h : partJson? v = some t)
    (hgap : ∀ c ∈ gap, isSpace c) : Reads part (gap ++ t) v := by
  unfold partJson? at h
  split at h
  · exact reads_part_text h hgap
  · next i =>
    split_ifs at h
    cases h
    exact reads_part_int hgap i
  · cases h

private theorem reads_entryJson (hlayout : layout.IsJson) {entry : Scalar × Value} {t : Text}
    (h : entryJson? layout entry = some t) : Reads member t entry := by
  obtain ⟨gap, hcolon, hgap⟩ := hlayout.colon
  unfold entryJson? at h
  split at h
  · next k v =>
    obtain ⟨key, hkey, part, hpart, rfl⟩ : ∃ key, k.plainJson? = some key ∧ ∃ part,
        partJson? v = some part ∧ layout.partBreak ++ key ++ layout.colon ++ part = t := by
      simpa [Option.bind_eq_some_iff] using h
    intro rest hrest
    have hshape : layout.partBreak ++ key ++ layout.colon ++ part ++ rest =
        layout.partBreak ++ key ++ (.scalar ':' :: (gap ++ part ++ rest)) := by
      simp [hcolon]
    have hsign : after? (.scalar ':') (.scalar ':' :: (gap ++ part ++ rest)) =
        some (gap ++ part ++ rest) := after?_eq (List.forall_mem_nil _) (by decide)
    simp only [member, hshape, string_plainJson hkey hlayout.partBreak, Option.bind_eq_bind,
      Option.bind_some, hsign, reads_part hpart hgap rest hrest]
    rfl
  · cases h

private theorem reads_json (hlayout : layout.IsJson) {withCode : Bool} {a : Artifact} {t : Text}
    (h : a.json? layout withCode = some t) : Reads mapping t (a.toEntries withCode) := by
  obtain ⟨parts, hparts, rfl⟩ := Option.map_eq_some_iff.mp h
  have hreads : List.Forall₂ (Reads member) parts (a.toEntries withCode) :=
    ((mapM_eq_some_iff.mp hparts).imp fun _ _ => reads_entryJson hlayout).flip
  exact reads_block (by decide) ⟨by decide, by decide, by decide⟩ hlayout.itemBreak
    hlayout.itemBreak hreads (by simp [toEntries])

/-- A manifest lists the parts of the artifacts, and nothing besides. -/
theorem listing?_manifest (hlayout : layout.IsJson) {withCode : Bool} {as : List Artifact}
    {t gap : Text} (h : manifest? layout withCode as = some t) (hgap : ∀ c ∈ gap, isSpace c) :
    listing? (t ++ gap) = some (as.map (toEntries withCode)) := by
  apply listing?_eq _ hgap
  cases as with
  | nil =>
    cases h
    exact reads_block_nil (by decide) ⟨by decide, by decide, by decide⟩ fun rest => rfl
  | cons a rest =>
    obtain ⟨items, hitems, rfl⟩ := Option.map_eq_some_iff.mp h
    have hreads : List.Forall₂ (Reads mapping) items ((a :: rest).map (toEntries withCode)) := by
      rw [List.forall₂_map_right_iff]
      exact ((mapM_eq_some_iff.mp hitems).imp fun _ _ => reads_json hlayout).flip
    exact reads_block (by decide) ⟨by decide, by decide, by decide⟩ (List.forall_mem_nil _)
      hlayout.endBreak hreads (List.cons_ne_nil _ _)

example : manifest? .pretty false [⟨"scene-2.svg", "svg", .eval, [], some 2, none⟩] = some
    ("[\n  \x7b\n    \"name\": \"scene-2.svg\",\n    \"language\": \"svg\",\n" ++
      "    \"mode\": \"eval\",\n    \"digest\": \"ef46db3751d8e999\",\n" ++
      "    \"scene\": 2\n  \x7d\n]") := by
  decide +kernel

end SceneBook.Artifact
