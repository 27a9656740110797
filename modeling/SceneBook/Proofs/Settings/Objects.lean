import SceneBook.Proofs.Store.Paths
import SceneBook.Proofs.Value.Keys
import SceneBook.Proofs.Value.Likeness
import SceneBook.Settings.Merge

/-!
# Merged objects

What merging makes of two mappings of a heap. All objects stay as they are, and the merged mappings
are new ones. Under each key stands what the two mappings come to there. Merging fails exactly where
the two meet along a path that is too long.
-/

namespace SceneBook

namespace Heap

variable {h h₀ h₁ h₂ h' : Heap} {b? s? r? : Option Slot} {s : Slot} {first depth : Nat}
  {merge : Heap → Nat → Nat → Heap × Except Misuse Nat}

private theorem bindings_of_mapping? {id : Nat} {es : Entries Slot}
    (hes : h.mapping? id = some es) :
    h.bindings id = es := by
  rw [bindings, hes, Option.getD_some]

private theorem Sound.put (hh : h.Sound) {id : Nat} {es : Entries Slot}
    (hes : h.mapping? id = some es) (k : Scalar) (hs : h.Shares [] s) : (h.put id k s).Sound := by
  rw [Heap.put, bindings_of_mapping? hes]
  refine ⟨(hh.apart.write (by simp) fun t ht => ?_).apart,
    hh.keyed.write id ((hh.distinct hes).put k s)⟩
  rcases Entries.mem_put ht with rfl | ht
  · exact hs
  · exact hh.apart.mapping? hes t ht

private theorem mapping?_put {id : Nat} {es : Entries Slot} (hes : h.mapping? id = some es)
    (k : Scalar) (s : Slot) : (h.put id k s).mapping? id = some (es.put k s) := by
  rw [Heap.put, bindings_of_mapping? hes, mapping?_eq_some_iff]
  exact get?_write_self (lt_fresh_of_get? (mapping?_eq_some_iff.mp hes)) _

private theorem works_put {id : Nat} {es : Entries Slot} (hes : h.mapping? id = some es)
    (k : Scalar) (s : Slot) : Works (· = id) h (h.put id k s) := by
  refine (Works.refl _ h).write (fun _ => rfl) fun old hold => ?_
  rw [mapping?_eq_some_iff.mp hes] at hold
  cases hold
  exact .mapping _ _

/-- What an earlier and a later slot of a heap come to in a later heap: the later slot takes the
place of the earlier one, unless both are mappings. Then there is a new mapping, with the keys of
the earlier one and after them those that only the later one has, and under each key what the two
come to there. New objects are those from `first` on. -/
inductive Overlaid (h : Heap) (first : Nat) (h' : Heap) :
    Option Slot → Option Slot → Option Slot → Prop
  | kept (b? : Option Slot) : Overlaid h first h' b? none b?
  | replaced {b? : Option Slot} {s : Slot}
    (hnot : b?.bind h.mappingId? = none ∨ h.mappingId? s = none) :
    Overlaid h first h' b? (some s) (some s)
  | merged {b l m : Nat} {bs ls es : Entries Slot} (hb : h.mapping? b = some bs)
    (hl : h.mapping? l = some ls) (hm : h'.mapping? m = some es) (hnew : first ≤ m)
    (hkeys : es.keys = bs.keys ++ ls.keys.filter fun k => !bs.has k)
    (heach : ∀ k, Overlaid h first h' (bs.find? k) (ls.find? k) (es.find? k)) :
    Overlaid h first h' (some (.ref b)) (some (.ref l)) (some (.ref m))

namespace Overlaid

private theorem mono {first' : Nat} (hover : Overlaid h first h' b? s? r?) (hle : first' ≤ first) :
    Overlaid h first' h' b? s? r? := by
  induction hover with
  | kept b? => exact .kept b?
  | replaced hnot => exact .replaced hnot
  | merged hb hl hm hnew hkeys _ ih =>
    exact .merged hb hl hm (Nat.le_trans hle hnew) hkeys ih

private theorem congr (hover : Overlaid h first h₁ b? s? r?)
    (hsame : ∀ id < h₁.fresh, first ≤ id → h₂.get? id = h₁.get? id) :
    Overlaid h first h₂ b? s? r? := by
  induction hover with
  | kept b? => exact .kept b?
  | replaced hnot => exact .replaced hnot
  | merged hb hl hm hnew hkeys _ ih =>
    have hlt := lt_fresh_of_get? (mapping?_eq_some_iff.mp hm)
    exact .merged hb hl ((mapping?_congr (hsame _ hlt hnew)).trans hm) hnew hkeys ih

end Overlaid

/-- What comes of merging a slot of the heap `h₀` into the one before it, in the heap `h` and down
to a depth. -/
inductive Merges (h₀ : Heap) (depth : Nat) (h : Heap) (b? : Option Slot) (s : Slot) :
    Heap × Except Misuse Slot → Prop
  | ok {h' : Heap} {r : Slot} (hg : h.Grows h') (hs : h'.Sound) (hr : h'.Shares [] r)
    (hover : Overlaid h₀ h.fresh h' b? (some s) (some r))
    (hdepth : ∀ b ∈ b?, ∀ path, h₀.Meet b s path → path.length < depth) :
    Merges h₀ depth h b? s (h', .ok r)
  | tooDeep {h' : Heap} {b : Slot} {path : List Value} (hg : h.Grows h') (hb : b? = some b)
    (hmeet : h₀.Meet b s path) (hdepth : path.length = depth) :
    Merges h₀ depth h b? s (h', .error .tooDeep)

/-- Merging two mappings of the heap `h₀` down to a depth comes to what it should, whatever new
objects there are by then. -/
def MergesAll (h₀ : Heap) (depth : Nat)
    (merge : Heap → Nat → Nat → Heap × Except Misuse Nat) : Prop :=
  ∀ h base later, h₀.Grows h → h.Sound → (h₀.mapping? base).isSome →
    (h₀.mapping? later).isSome → Merges h₀ depth h (some (.ref base)) (.ref later)
      ((merge h base later).1, (merge h base later).2.map .ref)

private theorem merges_overlay (hmerge : MergesAll h₀ depth merge) (hh : h.Sound) (hg : h₀.Grows h)
    (hb : ∀ b ∈ b?, h₀.Shares [] b) (hs : h₀.Shares [] s) :
    Merges h₀ depth h b? s (overlay merge h b? s) := by
  unfold overlay
  split
  · next base later hbase hlater =>
    obtain ⟨b, rfl, hbase'⟩ := Option.bind_eq_some_iff.mp hbase
    rw [hg.mappingId?_eq (hb b rfl)] at hbase'
    rw [hg.mappingId?_eq hs] at hlater
    obtain rfl := Store.eq_ref_of_mappingId? hbase'
    obtain rfl := Store.eq_ref_of_mappingId? hlater
    exact hmerge h base later hg hh (mappingId?_ref_eq_some_iff.mp hbase').2
      (mappingId?_ref_eq_some_iff.mp hlater).2
  · next hnot =>
    have hnot₀ : b?.bind h₀.mappingId? = none ∨ h₀.mappingId? s = none := by
      have hbefore : b?.bind h.mappingId? = b?.bind h₀.mappingId? := by
        cases b? with
        | none => rfl
        | some b => exact hg.mappingId?_eq (hb b rfl)
      rw [hbefore, hg.mappingId?_eq hs] at hnot
      cases hbase : b?.bind h₀.mappingId? with
      | none => exact .inl rfl
      | some base =>
        cases hlater : h₀.mappingId? s with
        | none => exact .inr rfl
        | some later => exact absurd hlater (hnot base later hbase)
    refine .ok (.refl h) hh (hs.mono hg.fresh_le) (.replaced hnot₀) fun b hb' path hmeet => ?_
    rw [Option.mem_def.mp hb'] at hnot₀
    exact absurd hmeet (not_meet hnot₀)

/-- What comes of an entry of a mapping over one copied from `bs`, down to a depth. -/
structure EntryMerged (h₀ : Heap) (depth first : Nat) (h' : Heap) (bs : Entries Slot)
    (e r : Scalar × Slot) : Prop where
  key : e.1 = r.1
  overlaid : Overlaid h₀ first h' (bs.find? e.1) (some e.2) (some r.2)
  depth : ∀ b ∈ bs.find? e.1, ∀ path, h₀.Meet b e.2 path → path.length < depth

/-- What comes of writing entries over those of a mapping that has been copied from `bs` and has
the entries `cur` by now. -/
inductive Fills (h₀ : Heap) (depth : Nat) (h : Heap) (target : Nat) (bs cur later : Entries Slot) :
    Heap × Except Misuse Unit → Prop
  | ok {h' : Heap} (rs : Entries Slot) (hw : Works (· = target) h h') (hs : h'.Sound)
    (hm : h'.mapping? target = some (cur.putAll rs))
    (heach : List.Forall₂ (EntryMerged h₀ depth (target + 1) h' bs) later rs) :
    Fills h₀ depth h target bs cur later (h', .ok ())
  | tooDeep {h' : Heap} {e : Scalar × Slot} {b : Slot} {path : List Value}
    (hw : Works (· = target) h h') (he : e ∈ later) (hb : bs.find? e.1 = some b)
    (hmeet : h₀.Meet b e.2 path) (hdepth : path.length = depth) :
    Fills h₀ depth h target bs cur later (h', .error .tooDeep)

private theorem Fills.cons {target : Nat} {bs cur rest : Entries Slot} {k : Scalar} {r : Slot}
    {result : Heap × Except Misuse Unit} (htarget : target < h.fresh) (hg : h.Grows h₁)
    (hover : Overlaid h₀ h.fresh h₁ (bs.find? k) (some s) (some r))
    (hdepth : ∀ b ∈ bs.find? k, ∀ path, h₀.Meet b s path → path.length < depth)
    (hw : Works (· = target) h₁ h₂)
    (hrest : Fills h₀ depth h₂ target bs (cur.put k r) rest result) :
    Fills h₀ depth h target bs cur ((k, s) :: rest) result := by
  have hw' : Works (· = target) h h₂ := (hg.works _).trans hw fun _ _ heq => heq
  cases hrest with
  | ok rs hlater hs hm heach =>
    refine .ok ((k, r) :: rs) (hw'.trans hlater fun _ _ heq => heq) hs hm
      (.cons ⟨rfl, ?_, hdepth⟩ heach)
    -- What has been merged under this key is not the target, and nothing else has changed since.
    refine (hover.mono htarget).congr fun id hid hnew => ?_
    have hne : id ≠ target := Nat.ne_of_gt hnew
    rw [hlater.elsewhere id (Nat.lt_of_lt_of_le hid hw.fresh_le) hne, hw.elsewhere id hid hne]
  | tooDeep hlater he hb hmeet hpath =>
    exact .tooDeep (hw'.trans hlater fun _ _ heq => heq) (List.mem_cons_of_mem _ he) hb hmeet hpath

private theorem fills (hmerge : MergesAll h₀ depth merge) {target : Nat}
    {bs cur later : Entries Slot} (hlater : later.Distinct) (hslots : ∀ e ∈ later, h₀.Shares [] e.2)
    (hbs : ∀ k, ∀ b ∈ bs.find? k, h₀.Shares [] b)
    (hcur : ∀ e ∈ later, cur.find? e.1 = bs.find? e.1) (hh : h.Sound) (hg : h₀.Grows h)
    (htarget : h₀.fresh ≤ target) (hm : h.mapping? target = some cur) :
    Fills h₀ depth h target bs cur later (fill merge target h later) := by
  induction later generalizing h cur with
  | nil => exact .ok [] (.refl _ h) hh hm .nil
  | cons e rest ih =>
    obtain ⟨k, s⟩ := e
    obtain ⟨hnew, hrest⟩ := Entries.distinct_cons.mp hlater
    obtain ⟨hslot, hslots⟩ := List.forall_mem_cons.mp hslots
    obtain ⟨hfirst, hothers⟩ := List.forall_mem_cons.mp hcur
    have hstep := merges_overlay hmerge hh hg (hbs k) hslot
    rw [fill, bindings_of_mapping? hm, hfirst]
    generalize overlay merge h (bs.find? k) s = step at hstep ⊢
    cases hstep with
    | tooDeep hg₁ hb hmeet hpath =>
      exact .tooDeep (hg₁.works _) List.mem_cons_self hb hmeet hpath
    | @ok h₁ r hg₁ hs hr hover hdepth =>
      have hm₁ : h₁.mapping? target = some cur := hg₁.mapping? hm
      have hcur' : ∀ e ∈ rest, (cur.put k r).find? e.1 = bs.find? e.1 := by
        intro e he
        have hother : k.same e.1 = false := by
          rw [Scalar.same_comm]
          exact Entries.find?_eq_none_iff.mp hnew e.1 (List.mem_map_of_mem he)
        rw [Entries.find?_put, hother, ← hothers e he]
        rfl
      exact .cons (lt_fresh_of_get? (mapping?_eq_some_iff.mp hm)) hg₁ hover hdepth
        (works_put hm₁ k r) (ih hrest hslots hcur' (hs.put hm₁ k hr)
          ((hg.trans hg₁).write htarget _) (mapping?_put hm₁ k r))

private theorem Works.grows {o : Object} (hw : Works (· = h.fresh) (h.alloc o).1 h') :
    h.Grows h' := by
  have hnew := grows_alloc h o
  refine ⟨Nat.le_trans hnew.fresh_le hw.fresh_le, fun id hid => ?_⟩
  rw [hw.elsewhere id (Nat.lt_of_lt_of_le hid hnew.fresh_le) (Nat.ne_of_lt hid), hnew.same id hid]

section Entries

variable {bs ls rs : Entries Slot}

private theorem overlaid_find? (heach : List.Forall₂ (EntryMerged h₀ depth first h' bs) ls rs)
    (k : Scalar) :
    Overlaid h₀ first h' (bs.find? k) (ls.find? k) ((rs.find? k).or (bs.find? k)) := by
  rcases Entries.find?_of_forall₂ (fun _ _ hr => hr.key) heach k with
    ⟨hls, hrs⟩ | ⟨e, r, hsame, hls, hrs, hr⟩
  · rw [hls, hrs]
    exact .kept _
  · rw [hls, hrs, ← Entries.find?_congr hsame]
    exact hr.overlaid

private theorem length_lt_of_meet (heach : List.Forall₂ (EntryMerged h₀ depth first h' bs) ls rs)
    {k : Scalar} {b l : Slot} {path : List Value} (hb : bs.find? k = some b)
    (hl : ls.find? k = some l) (hmeet : h₀.Meet b l path) : path.length < depth := by
  rcases Entries.find?_of_forall₂ (fun _ _ hr => hr.key) heach k with
    ⟨hls, -⟩ | ⟨e, r, hsame, hls, -, hr⟩
  · rw [hl] at hls
    cases hls
  · rw [hl] at hls
    cases hls
    rw [← Entries.find?_congr hsame] at hb
    exact hr.depth b hb path hmeet

private theorem Fills.merges {base later : Nat} (hh : h₀.Sound) (hb : h₀.mapping? base = some bs)
    (hl : h₀.mapping? later = some ls) {filled : Heap × Except Misuse Unit} {o : Object}
    (hfills : Fills h₀ depth (h.alloc o).1 h.fresh bs bs ls filled) :
    Merges h₀ (depth + 1) h (some (.ref base)) (.ref later)
      (filled.1, filled.2.map fun _ => .ref h.fresh) := by
  cases hfills with
  | @tooDeep h' e b path hw he hfind hmeet hpath =>
    have hfind' : ls.find? e.1 = some e.2 := Entries.find?_of_mem (hh.distinct hl) he
    exact .tooDeep hw.grows rfl
      ((meet_mappings_iff hb hl).mpr ⟨e.1, b, e.2, rfl, hfind, hfind', hmeet⟩)
      (congrArg Nat.succ hpath)
  | @ok h' rs hw hs hm heach =>
    have hkeys : rs.keys = ls.keys := Entries.keys_eq_of_forall₂ (fun _ _ hr => hr.key) heach
    have hrs : rs.Distinct := by
      rw [Entries.Distinct, hkeys]
      exact hh.distinct hl
    have hfresh : h.fresh < h'.fresh := lt_fresh_of_get? (mapping?_eq_some_iff.mp hm)
    refine .ok hw.grows hs ⟨hfresh, by simp⟩ (.merged hb hl hm (Nat.le_refl _) ?_ fun k => ?_)
      fun b hbase path hmeet => ?_
    · rw [Entries.keys_putAll hrs, hkeys]
    · rw [Entries.find?_putAll hrs]
      exact (overlaid_find? heach k).mono (Nat.le_succ _)
    · cases hbase
      cases path with
      | nil => exact Nat.succ_pos depth
      | cons segment path =>
        obtain ⟨k, b, l, -, hbs, hls, hmeet⟩ := (meet_mappings_iff hb hl).mp hmeet
        exact Nat.succ_lt_succ (length_lt_of_meet heach hbs hls hmeet)

end Entries

private theorem mergeWithin_succ {base later : Nat} {bs ls : Entries Slot}
    (hb : h.mapping? base = some bs) (hl : h.mapping? later = some ls) :
    mergeWithin (depth + 1) h base later =
      let filled := fill (mergeWithin depth) h.fresh (h.alloc (.mapping bs)).1 ls
      (filled.1, filled.2.map fun _ => h.fresh) := by
  have hl' : (h.alloc (.mapping bs)).1.mapping? later = some ls := (grows_alloc h _).mapping? hl
  rw [← bindings_of_mapping? hl', ← bindings_of_mapping? hb]
  rfl

theorem mergesAll_mergeWithin (hh : h₀.Sound) (depth : Nat) :
    MergesAll h₀ depth (mergeWithin depth) := by
  induction depth with
  | zero =>
    intro h base later _ _ hbase hlater
    exact .tooDeep (.refl h) rfl (meet_nil hbase hlater) rfl
  | succ depth ih =>
    intro h base later hg hs hbase hlater
    obtain ⟨bs, hb⟩ := Option.isSome_iff_exists.mp hbase
    obtain ⟨ls, hl⟩ := Option.isSome_iff_exists.mp hlater
    have hcopy : (h.alloc (.mapping bs)).1.Sound :=
      hs.alloc (hh.distinct hb) fun s hs => (hh.apart.mapping? hb s hs).mono hg.fresh_le
    have hfills := fills ih (hh.distinct hl)
      (fun e he => hh.apart.mapping? hl e.2 (List.mem_map_of_mem he))
      (fun k b hfind => hh.apart.find? hb hfind) (fun _ _ => rfl) hcopy
      (hg.trans (grows_alloc h _)) hg.fresh_le (mapping?_alloc bs)
    have hmerges := hfills.merges hh hb hl
    rw [mergeWithin_succ (hg.mapping? hb) (hg.mapping? hl)]
    generalize fill (mergeWithin depth) h.fresh (h.alloc (.mapping bs)).1 ls = filled at hmerges ⊢
    obtain ⟨h', result⟩ := filled
    cases result with
    | error e => exact hmerges
    | ok _ => exact hmerges

end Heap

end SceneBook
