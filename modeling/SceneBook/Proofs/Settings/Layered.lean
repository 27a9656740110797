import SceneBook.Proofs.Settings.Loading
import SceneBook.Proofs.Settings.Overrides
import SceneBook.Proofs.Value.Reading

/-!
# Layers and objects

Merging the values of two layers comes to the same as merging the mappings that hold them: both fail
or both succeed, and the merged mapping then holds the merged value. So what holds of merged
mappings path by path holds of the files that settings are loaded from.
-/

namespace SceneBook

namespace Heap

variable {h h' : Heap}

private theorem nested_of_meet {b l : Slot} {bs ls : Entries Value} {path : List Value}
    (hb : h.Holds b (.map bs)) (hl : h.Holds l (.map ls)) (hmeet : h.Meet b l path) :
    Settings.Nested path.length bs ls := by
  induction path generalizing b l bs ls with
  | nil => trivial
  | cons segment rest ih =>
    obtain ⟨base, fs, rfl, hfs, hbs⟩ := hb.of_map
    obtain ⟨later, gs, rfl, hgs, hls⟩ := hl.of_map
    obtain ⟨k, b, l, -, hbk, hlk, hrest⟩ := (meet_mappings_iff hfs hgs).mp hmeet
    obtain ⟨u, hu, hbu⟩ := hbs.exists_held hbk
    obtain ⟨v, hv, hlv⟩ := hls.exists_held hlk
    obtain ⟨hbase, hlater⟩ := hrest.mappings
    rw [← hbu.isSome_map?] at hbase
    rw [← hlv.isSome_map?] at hlater
    obtain ⟨bs', hbs'⟩ := Option.isSome_iff_exists.mp hbase
    obtain ⟨ls', hls'⟩ := Option.isSome_iff_exists.mp hlater
    refine ⟨k, bs', ls', ?_, ?_, ih (hbu.map? hbs') (hlv.map? hls') hrest⟩
    · rw [hu, Option.bind_some, hbs']
    · rw [hv, Option.bind_some, hls']

private theorem exists_meet_of_nested {b l : Slot} {bs ls : Entries Value} {depth : Nat}
    (hb : h.Holds b (.map bs)) (hl : h.Holds l (.map ls)) (hnested : Settings.Nested depth bs ls) :
    ∃ path, path.length = depth ∧ h.Meet b l path := by
  induction depth generalizing b l bs ls with
  | zero =>
    obtain ⟨base, fs, rfl, hfs, -⟩ := hb.of_map
    obtain ⟨later, gs, rfl, hgs, -⟩ := hl.of_map
    exact ⟨[], rfl, meet_nil (Option.isSome_of_eq_some hfs) (Option.isSome_of_eq_some hgs)⟩
  | succ depth ih =>
    obtain ⟨base, fs, rfl, hfs, hbs⟩ := hb.of_map
    obtain ⟨later, gs, rfl, hgs, hls⟩ := hl.of_map
    obtain ⟨k, bs', ls', hbs', hls', hrest⟩ := hnested
    obtain ⟨u, hu, hbs'⟩ := Option.bind_eq_some_iff.mp hbs'
    obtain ⟨v, hv, hls'⟩ := Option.bind_eq_some_iff.mp hls'
    obtain ⟨b', hb', hbu⟩ := hbs.exists_slot hu
    obtain ⟨l', hl', hlv⟩ := hls.exists_slot hv
    obtain ⟨path, hpath, hmeet⟩ := ih (hbu.map? hbs') (hlv.map? hls') hrest
    exact ⟨.scalar k :: path, congrArg Nat.succ hpath,
      (meet_mappings_iff hfs hgs).mpr ⟨k, b', l', rfl, hb', hl', hmeet⟩⟩

private theorem isSome_map?_of_rel {b? : Option Slot} {bv? : Option Value}
    (hb : Option.Rel h.Holds b? bv?) :
    (bv?.bind Value.map?).isSome = (b?.bind h.mappingId?).isSome := by
  cases hb with
  | none => rfl
  | some hv => exact hv.isSome_map?

private theorem Overlaid.holds {first : Nat} {b? s? r? : Option Slot} {bv? sv? rv? : Option Value}
    (hg : h.Grows h') (hh : h'.Sound) (hover : Overlaid h first h' b? s? r?)
    (hvalues : Settings.Overlaid bv? sv? rv?) (hb : Option.Rel h.Holds b? bv?)
    (hs : Option.Rel h.Holds s? sv?) : Option.Rel h'.Holds r? rv? := by
  induction hover generalizing bv? sv? rv? with
  | kept b? =>
    cases hs
    cases hvalues
    cases hb with
    | none => exact .none
    | some hv => exact .some (hv.grows hg)
  | @replaced b? s hnot =>
    have hmaps := isSome_map?_of_rel hb
    cases hs with
    | @some _ v hs =>
      cases hvalues with
      | replaced _ => exact .some (hs.grows hg)
      | @merged b v bs ls es hbv hv _ _ =>
        -- Both values are mappings, and so are the slots that hold them.
        have hmap := hs.isSome_map?
        rw [Option.bind_some, hbv] at hmaps
        rw [hv] at hmap
        rcases hnot with hnone | hnone
        · rw [hnone] at hmaps
          cases hmaps
        · rw [hnone] at hmap
          cases hmap
  | @merged b l m bs ls es hbs hls hm _ hkeys _ ih =>
    cases hb with
    | @some _ bv hb =>
      cases hs with
      | @some _ v hs =>
        obtain ⟨bs', rfl, hbs'⟩ := hb.of_mapping? hbs
        obtain ⟨ls', rfl, hls'⟩ := hs.of_mapping? hls
        cases hvalues with
        | replaced hnot => simp [Value.map?, Value.opened] at hnot
        | merged hbv hv hkeys' heach =>
          cases hbv
          cases hv
          refine .some ⟨es, hm, holdsEntries_of_find? (hh.distinct hm) ?_ fun k =>
            ih k (heach k) (hbs'.find? k) (hls'.find? k)⟩
          rw [hkeys', hkeys, hbs'.keys, hls'.keys]
          simp only [Entries.has_eq_any, hbs'.keys]

/-- Merging mappings and merging the values that they hold fail alike or succeed alike, and the
merged mapping holds the merged value. -/
theorem agree_merge [Limits] (hh : h.Sound) {base later : Nat} {bs ls : Entries Value}
    (hb : h.Holds (.ref base) (.map bs)) (hl : h.Holds (.ref later) (.map ls)) :
    Agree (fun m es => (h.merge base later).1.Holds (.ref m) (.map es)) (h.merge base later).2
      (Settings.layer bs ls) := by
  have hkeyed := hl.keyed hh
  obtain ⟨fs, hfs, -⟩ := id hb
  obtain ⟨gs, hgs, -⟩ := id hl
  rcases merge_cases hh (Option.isSome_of_eq_some hfs) (Option.isSome_of_eq_some hgs) with
    ⟨⟨path, hpath, hmeet⟩, h₁, hrun, -⟩ | ⟨hdeep, h₁, m, hrun, hg, hs, hover⟩
  · have hnested := nested_of_meet hb hl hmeet
    rw [hpath] at hnested
    have herror : Settings.mergeWithin Limits.merge bs ls = .error .tooDeep :=
      (Settings.mergeWithin_eq_error_iff hkeyed).mpr ⟨rfl, hnested⟩
    rw [hrun, Settings.layer, herror]
    exact .error _
  · have hnot : ¬ Settings.Nested Limits.merge bs ls := fun hnested =>
      hdeep (exists_meet_of_nested hb hl hnested)
    obtain ⟨es, hes⟩ := Settings.exists_mergeWithin hkeyed hnot
    rw [hrun, Settings.layer, hes]
    refine .ok ?_
    have hat : Settings.overlayAt (Settings.mergeWithin Limits.merge) (some (.map bs))
        (some (.map ls)) = .ok (some (.map es)) := by
      change ((Settings.mergeWithin Limits.merge bs ls).map Value.map).map some = _
      rw [hes]
      rfl
    have hvalues := Settings.overlaid_of_overlayAt (by simpa using hkeyed) hat
    have hholds := hover.holds hg hs hvalues (.some hb) (.some hl)
    cases hholds with
    | some hholds => exact hholds

/-- Reading the merged mapping gives the merged value. -/
theorem map_value_merge [Limits] (hh : h.Sound) {base later : Nat} {bs ls : Entries Value}
    (hb : h.Holds (.ref base) (.map bs)) (hl : h.Holds (.ref later) (.map ls)) :
    (h.merge base later).2.map (fun m => (h.merge base later).1.value (.ref m)) =
      (Settings.layer bs ls).map .map := by
  have hagree := agree_merge hh hb hl
  generalize (h.merge base later).2 = merged at hagree ⊢
  generalize Settings.layer bs ls = layered at hagree ⊢
  cases hagree with
  | error e => rfl
  | ok hholds => exact congrArg Except.ok (value_of_holds hholds)

private theorem Holds.exists_mappingId? {s : Slot} {es : Entries Value}
    (hes : h.Holds s (.map es)) :
    ∃ id, h.mappingId? s = some id ∧ h.Holds (.ref id) (.map es) := by
  obtain ⟨id, fs, rfl, hfs, hheld⟩ := hes.of_map
  exact ⟨id, mappingId?_ref_eq_some_iff.mpr ⟨rfl, Option.isSome_of_eq_some hfs⟩, fs, hfs, hheld⟩

end Heap

namespace Settings

open Heap

/-- Trees merged as objects, in a heap of their own, come to what they are merged to as values. -/
theorem mergeValues_map [Limits] {bs ls : Entries Value} (hb : (Value.map bs).Plain)
    (hbs : (Value.map bs).Keyed) (hl : (Value.map ls).Plain) (hls : (Value.map ls).Keyed) :
    mergeValues (.map bs) (.map ls) = (layer bs ls).map .map := by
  obtain ⟨hplaced, hbase⟩ := Sound.empty.place [] (.map bs) hb hbs
  obtain ⟨hplaced', hlater⟩ := hplaced.sound.place [] (.map ls) hl hls
  have hbase' := hbase.grows (grows_place _ [] (.map ls))
  obtain ⟨b, hbaseId, hbase'⟩ := hbase'.exists_mappingId?
  obtain ⟨l, hlaterId, hlater'⟩ := hlater.exists_mappingId?
  simp only [mergeValues, Heap.add, hbaseId, hlaterId]
  exact map_value_merge hplaced'.sound hbase' hlater'

/-- The variables are written over what the files come to as objects: an empty mapping, the file of
the user merged over it, and the file of the project merged over both. -/
theorem Sources.entries_eq_mergeValues [Limits] {s : Sources} {user project : Entries Value}
    (hu : s.user.entries = .ok user) (hp : s.project.entries = .ok project)
    (huser : (Value.map user).Plain) (hproject : (Value.map project).Plain) :
    s.entries = (do
      let base ← mergeValues (.map []) (.map user)
      let merged ← mergeValues base (.map project)
      applyVariables s.environment (merged.map?.getD []) fieldVariables).mapError .misuse := by
  have hempty : (Value.map []).Keyed := .map Entries.distinct_nil nofun
  have hkeyed := File.keyed_entries hu
  have hbase : mergeValues (.map []) (.map user) = .ok (.map user) := by
    rw [mergeValues_map (.map (by simp)) hempty huser hkeyed, layer_nil hkeyed.distinct]
    rfl
  have hmerged : mergeValues (.map user) (.map project) = (layer user project).map .map :=
    mergeValues_map huser hkeyed hproject (File.keyed_entries hp)
  rw [Sources.entries, hu, hp]
  simp only [bind, Except.bind, layer_nil hkeyed.distinct, hbase, hmerged]
  cases layer user project <;> rfl

end Settings

end SceneBook
