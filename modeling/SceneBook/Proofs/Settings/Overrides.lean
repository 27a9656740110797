import SceneBook.Proofs.Settings.Objects

/-!
# Overrides along paths

What a merged mapping has at a path is decided by what the two mappings have there, and where the
later one has nothing, by the longest beginning of the path at which it has something. Merging the
same mapping again changes nothing.
-/

namespace SceneBook.Heap

variable {h h₁ h₂ h' : Heap} {b l r s : Slot} {b? s? r? : Option Slot} {first first' : Nat}
  {segment : Value} {path rest : List Value}

/-- What the slot `r` that `b` and `l` come to has at a path. -/
inductive MergedAt (h : Heap) (b l : Slot) (h' : Heap) (r : Slot) (path : List Value) : Prop
  /-- The later slot has something there, and not both have a mapping. -/
  | replaced {s : Slot} (hs : h.Walks l path s) (hnot : ¬ h.Meet b l path)
    (hr : h'.Walks r path s)
  /-- Both have a mapping there. -/
  | merged {b' l' m : Nat} {bs ls es : Entries Slot} (hb : h.Walks b path (.ref b'))
    (hbs : h.mapping? b' = some bs) (hl : h.Walks l path (.ref l')) (hls : h.mapping? l' = some ls)
    (hm : h'.Walks r path (.ref m)) (hes : h'.mapping? m = some es)
    (hkeys : es.keys = bs.keys ++ ls.keys.filter fun k => !bs.has k)
  /-- The later slot has nothing there, and both have a mapping where it ends. -/
  | kept {k : Nat} {last : Slot} (hk : h.Furthest l path k last) (hlt : k < path.length)
    (hmeet : h.Meet b l (path.take k)) (hsame : ∀ s, h'.Walks r path s ↔ h.Walks b path s)
  /-- The later slot has nothing there, and where it ends not both have a mapping. -/
  | gone {k : Nat} {last : Slot} (hk : h.Furthest l path k last) (hlt : k < path.length)
    (hnot : ¬ h.Meet b l (path.take k)) (hnone : ∀ s, ¬ h'.Walks r path s)

namespace MergedAt

/-- A slot that is taken from the later mapping, where nowhere on the way both have a mapping. -/
theorem of_replaced (hsame : ∀ s, h'.Walks r path s ↔ h.Walks l path s)
    (hnot : ∀ k last, h.Furthest l path k last → ¬ h.Meet b l (path.take k)) :
    MergedAt h b l h' r path := by
  obtain ⟨k, last, hk⟩ := exists_furthest h l path
  have hnotMeet := hnot k last hk
  rcases Nat.lt_or_eq_of_le hk.le with hlt | heq
  · refine .gone hk hlt hnotMeet fun s hs => ?_
    have hle := hk.most path.length (Nat.le_refl _) s (by rwa [List.take_length, ← hsame])
    omega
  · have hwalks := hk.walks
    rw [heq, List.take_length] at hwalks hnotMeet
    exact .replaced hwalks hnotMeet ((hsame last).mpr hwalks)

private theorem cons {b' l' r' : Slot} (hb : h.next? b segment = some b')
    (hl : h.next? l segment = some l') (hr : h'.next? r segment = some r')
    (hrest : MergedAt h b' l' h' r' rest) : MergedAt h b l h' r (segment :: rest) := by
  have hmeet (path : List Value) : h.Meet b l (segment :: path) ↔ h.Meet b' l' path := by
    rw [meet_cons_iff, hb, hl]
    simp
  cases hrest with
  | replaced hs hnot hr' =>
    refine .replaced (.step hl hs) ?_ (.step hr hr')
    rwa [hmeet]
  | merged hbw hbs hlw hls hm hes hkeys =>
    exact .merged (.step hb hbw) hbs (.step hl hlw) hls (.step hr hm) hes hkeys
  | kept hk hlt hmeet' hsame =>
    refine .kept (hk.step hl) (Nat.succ_lt_succ hlt) ((hmeet _).mpr hmeet') fun s => ?_
    rw [walks_cons_iff hr, walks_cons_iff hb]
    exact hsame s
  | gone hk hlt hnot hnone =>
    refine .gone (hk.step hl) (Nat.succ_lt_succ hlt) ?_ fun s => ?_
    · rwa [List.take_succ_cons, hmeet]
    · rw [walks_cons_iff hr]
      exact hnone s

end MergedAt

namespace Overlaid

private theorem exists_eq_some (hover : Overlaid h first h' b? (some s) r?) : ∃ r, r? = some r := by
  cases hover with
  | replaced _ => exact ⟨s, rfl⟩
  | @merged _ _ m => exact ⟨.ref m, rfl⟩

private theorem eq_of_left_none (hover : Overlaid h first h' none (some s) r?) : r? = some s := by
  cases hover
  rfl

private theorem eq_of_none (hover : Overlaid h first h' b? none r?) : r? = b? := by
  cases hover
  rfl

theorem of_mappings {b l m : Nat} (hb : (h.mapping? b).isSome) (hl : (h.mapping? l).isSome)
    (hover : Overlaid h first h' (some (.ref b)) (some (.ref l)) (some (.ref m))) :
    first ≤ m ∧ (h'.mapping? m).isSome := by
  cases hover with
  | replaced hnot => exact absurd (meet_nil hb hl) (not_meet hnot)
  | merged _ _ hm hnew _ _ => exact ⟨hnew, Option.isSome_of_eq_some hm⟩

private theorem mergedAt_kept (hh : h.Sound) (hg : h.Grows h') (hmeet : h.Meet b l [])
    (hnone : h.next? l segment = none) (hsame : h'.next? r segment = h.next? b segment) :
    MergedAt h b l h' r (segment :: rest) := by
  refine .kept (Furthest.of_stop (.here l) hnone rest) (by simp) hmeet fun s => ?_
  exact walks_cons_congr hsame fun _ hnext => hg.walks_iff hh.apart (hh.apart.next? hnext)

private theorem mergedAt_added (hh : h.Sound) (hg : h.Grows h') {l' : Slot}
    (hl : h.next? l segment = some l') (hnone : h.next? b segment = none)
    (hr : h'.next? r segment = some l') : MergedAt h b l h' r (segment :: rest) := by
  refine .of_replaced (fun s => ?_) fun k last hk hmeet => ?_
  · exact walks_cons_congr (hr.trans hl.symm) fun _ hnext =>
      hg.walks_iff hh.apart (hh.apart.next? hnext)
  · cases k with
    | zero =>
      have hle := hk.most 1 (by simp) l' (.step hl (.here l'))
      omega
    | succ k =>
      rw [List.take_succ_cons, meet_cons_iff] at hmeet
      obtain ⟨b', _, hnext, -⟩ := hmeet
      rw [hnone] at hnext
      cases hnext

private theorem mergedAt_replaced (hh : h.Sound) (hg : h.Grows h') (hs : h.Shares [] s)
    (hnot : h.mappingId? b = none ∨ h.mappingId? s = none) (path : List Value) :
    MergedAt h b s h' s path :=
  .of_replaced (fun _ => hg.walks_iff hh.apart hs) fun _ _ _ => not_meet hnot

private theorem next {b l m : Nat} {bs ls es : Entries Slot} (hb : h.mapping? b = some bs)
    (hl : h.mapping? l = some ls) (hm : h'.mapping? m = some es)
    (heach : ∀ k, Overlaid h first h' (bs.find? k) (ls.find? k) (es.find? k)) (segment : Value) :
    Overlaid h first h' (h.next? (.ref b) segment) (h.next? (.ref l) segment)
      (h'.next? (.ref m) segment) := by
  rw [next?_ref hb, next?_ref hl, next?_ref hm]
  cases segment.scalar? with
  | none => exact .kept none
  | some k => exact heach k

private theorem mergedAt (hh : h.Sound) (hg : h.Grows h') (hs : h.Shares [] s)
    (hover : Overlaid h first h' (some b) (some s) (some r)) (path : List Value) :
    MergedAt h b s h' r path := by
  induction path generalizing b s r with
  | nil =>
    cases hover with
    | replaced hnot => exact mergedAt_replaced hh hg hs hnot []
    | merged hb hl hm _ hkeys _ => exact .merged (.here _) hb (.here _) hl (.here _) hm hkeys
  | cons segment rest ih =>
    cases hover with
    | replaced hnot => exact mergedAt_replaced hh hg hs hnot (segment :: rest)
    | @merged b l m bs ls es hb hl hm _ _ heach =>
      have hnext := next hb hl hm heach segment
      cases hl' : h.next? (.ref l) segment with
      | none =>
        have hmeet := meet_nil (Option.isSome_of_eq_some hb) (Option.isSome_of_eq_some hl)
        have hsame : h'.next? (.ref m) segment = h.next? (.ref b) segment := by
          rw [hl'] at hnext
          exact hnext.eq_of_none
        exact mergedAt_kept hh hg hmeet hl' hsame
      | some l' =>
        rw [hl'] at hnext
        obtain ⟨r', hr'⟩ := hnext.exists_eq_some
        rw [hr'] at hnext
        cases hb' : h.next? (.ref b) segment with
        | none =>
          rw [hb'] at hnext
          cases hnext
          exact mergedAt_added hh hg hl' hb' hr'
        | some b' =>
          rw [hb'] at hnext
          exact .cons hb' hl' hr' (ih (hh.apart.next? hl') hnext)

end Overlaid

/-- The same slot, or mappings that have the same keys in the same order and the same under each. -/
inductive Same (h : Heap) : Option Slot → Option Slot → Prop
  | refl (s? : Option Slot) : Same h s? s?
  | mappings {a b : Nat} {es fs : Entries Slot} (ha : h.mapping? a = some es)
    (hb : h.mapping? b = some fs) (hkeys : fs.keys = es.keys)
    (heach : ∀ k, Same h (es.find? k) (fs.find? k)) : Same h (some (.ref a)) (some (.ref b))

private theorem filter_keys_eq_nil {es fs : Entries Slot}
    (hall : ∀ k s, fs.find? k = some s → (es.find? k).isSome) :
    fs.keys.filter (fun k => !es.has k) = [] := by
  refine List.filter_eq_nil_iff.mpr fun k hk => ?_
  have hhas : (fs.find? k).isSome := by
    rw [← Entries.has, Entries.has_eq_any, List.any_eq_true]
    exact ⟨k, hk, Scalar.same_self k⟩
  obtain ⟨s, hs⟩ := Option.isSome_iff_exists.mp hhas
  have hes := hall k s hs
  rw [← Entries.has] at hes
  simp [hes]

namespace Overlaid

private theorem same_of_self (hg : h.Grows h') (hself : b? = s?)
    (hover : Overlaid h first h' b? s? r?) :
    Same h' s? r? := by
  induction hover with
  | kept b? =>
    rw [hself]
    exact .refl _
  | replaced _ => exact .refl _
  | @merged b l m bs ls es hb hl hm _ hkeys _ ih =>
    cases hself
    rw [hb] at hl
    cases hl
    refine .mappings (hg.mapping? hb) hm ?_ fun k => ih k rfl
    rw [hkeys, filter_keys_eq_nil fun k s hs => Option.isSome_of_eq_some hs, List.append_nil]

private theorem same_of_again {r'? : Option Slot} (hg₁ : h.Grows h₁) (hg₂ : h₁.Grows h₂)
    (hover : Overlaid h first h₁ b? s? r?) (hagain : Overlaid h₁ first' h₂ r? s? r'?) :
    Same h₂ r? r'? := by
  induction hover generalizing r'? with
  | kept b? =>
    rw [hagain.eq_of_none]
    exact .refl _
  | replaced _ => exact hagain.same_of_self hg₂ rfl
  | @merged b l m bs ls es hb hl hm _ hkeys heach ih =>
    have hl₁ : h₁.mapping? l = some ls := hg₁.mapping? hl
    cases hagain with
    | replaced hnot =>
      have hmeet := meet_nil (Option.isSome_of_eq_some hm) (Option.isSome_of_eq_some hl₁)
      exact absurd hmeet (not_meet hnot)
    | merged hm' hl' hr _ hkeys' heach' =>
      rw [hm] at hm'
      rw [hl₁] at hl'
      cases hm'
      cases hl'
      refine .mappings (hg₂.mapping? hm) hr ?_ fun k => ih k (heach' k)
      have hall (k : Scalar) (s : Slot) (hs : ls.find? k = some s) : (es.find? k).isSome := by
        have hk := heach k
        rw [hs] at hk
        obtain ⟨r, hr⟩ := hk.exists_eq_some
        exact Option.isSome_of_eq_some hr
      rw [hkeys', filter_keys_eq_nil hall, List.append_nil]

end Overlaid

/-- The mappings meet along a path as long as merging goes down. -/
def MeetTooDeep [Limits] (h : Heap) (base later : Nat) : Prop :=
  ∃ path, path.length = Limits.merge ∧ h.Meet (.ref base) (.ref later) path

theorem merge_cases [Limits] (hh : h.Sound) {base later : Nat} (hb : (h.mapping? base).isSome)
    (hl : (h.mapping? later).isSome) :
    h.MeetTooDeep base later ∧ (∃ h₁, h.merge base later = (h₁, .error .tooDeep) ∧ h.Grows h₁) ∨
      ¬ h.MeetTooDeep base later ∧ ∃ h₁ m, h.merge base later = (h₁, .ok m) ∧ h.Grows h₁ ∧
        h₁.Sound ∧
        Overlaid h h.fresh h₁ (some (.ref base)) (some (.ref later)) (some (.ref m)) := by
  have hmerges := mergesAll_mergeWithin hh Limits.merge h base later (.refl h) hh hb hl
  rw [merge]
  generalize mergeWithin Limits.merge h base later = result at hmerges ⊢
  obtain ⟨h₁, result⟩ := result
  cases result with
  | error e =>
    cases hmerges with
    | tooDeep hg hbase hmeet hdepth =>
      cases hbase
      exact .inl ⟨⟨_, hdepth, hmeet⟩, h₁, rfl, hg⟩
  | ok m =>
    cases hmerges with
    | ok hg hs _ hover hdepth =>
      refine .inr ⟨?_, h₁, m, rfl, hg, hs, hover⟩
      rintro ⟨path, hlength, hmeet⟩
      exact absurd hlength (Nat.ne_of_lt (hdepth _ rfl path hmeet))

/-- Merging a mapping over another one changes no object. It fails if the two meet along a path that
is too long. Otherwise it gives a new mapping, and what this has at every path is decided by what
the two have there; to merge the later mapping into it again gives the same, unless this fails. -/
theorem merge_overrides [Limits] (hh : h.Sound) {base later : Nat} (hb : (h.mapping? base).isSome)
    (hl : (h.mapping? later).isSome) :
    h.Grows (h.merge base later).1 ∧
      (h.MeetTooDeep base later → (h.merge base later).2 = .error .tooDeep) ∧
      (¬ h.MeetTooDeep base later → ∃ h₁ m, h.merge base later = (h₁, .ok m) ∧ h₁.Sound ∧
        h.fresh ≤ m ∧ (∀ path, MergedAt h (.ref base) (.ref later) h₁ (.ref m) path) ∧
        (¬ h₁.MeetTooDeep m later → ∃ h₂ m', h₁.merge m later = (h₂, .ok m') ∧
          h₂.Same (some (.ref m)) (some (.ref m')))) := by
  have hlater : h.Shares [] (.ref later) := by
    obtain ⟨ls, hls⟩ := Option.isSome_iff_exists.mp hl
    exact ⟨lt_fresh_of_get? (mapping?_eq_some_iff.mp hls), by simp⟩
  rcases merge_cases hh hb hl with
    ⟨hdeep, h₁, hrun, hg⟩ | ⟨hdeep, h₁, m, hrun, hg, hs, hover⟩
  · rw [hrun]
    exact ⟨hg, fun _ => rfl, fun hnot => absurd hdeep hnot⟩
  · obtain ⟨hnew, hm⟩ := hover.of_mappings hb hl
    rw [hrun]
    refine ⟨hg, fun hmeet => absurd hmeet hdeep, fun _ =>
      ⟨h₁, m, rfl, hs, hnew, hover.mergedAt hh hg hlater, fun hagain => ?_⟩⟩
    have hl₁ : (h₁.mapping? later).isSome := by rwa [hg.mapping?_eq hlater]
    rcases merge_cases hs hm hl₁ with
      ⟨hdeep', -⟩ | ⟨-, h₂, m', hrun', hg', -, hover'⟩
    · exact absurd hdeep' hagain
    · exact ⟨h₂, m', hrun', hover.same_of_again hg hg' hover'⟩

/-- The mapping of a user and that of a project, after the mappings inside them. -/
def layers : Heap :=
  ⟨#[.mapping [(.text "scene_element", .scalar (.text "user-scene")),
      (.text "store_root_key", .scalar (.text "state"))],
    .mapping [(.text "output", .ref 0), (.text "theme", .scalar (.text "dark"))],
    .mapping [(.text "scene_element", .scalar (.text "project-scene"))],
    .mapping [],
    .mapping [(.text "output", .ref 2), (.text "theme", .ref 3)]]⟩

/-- A project's mapping over a user's one: their outputs are merged, and the project's theme takes
the place of the user's. -/
theorem merge_overrides_layers :
    layers.Sound ∧ (layers.mapping? 1).isSome ∧ (layers.mapping? 4).isSome ∧
      ¬ layers.MeetTooDeep 1 4 ∧
      ∃ h₁ m, layers.merge 1 4 = (h₁, .ok m) ∧
        (∀ path, MergedAt layers (.ref 1) (.ref 4) h₁ (.ref m) path) ∧
        h₁.Walks (.ref m) [.text "output", .text "store_root_key"] (.scalar (.text "state")) ∧
        h₁.Walks (.ref m) [.text "theme"] (.ref 3) ∧ ¬ h₁.MeetTooDeep m 4 ∧
        ∃ h₂ m', h₁.merge m 4 = (h₂, .ok m') ∧ h₂.Same (some (.ref m)) (some (.ref m')) := by
  have hsound : layers.Sound := by decide
  have huser : (layers.mapping? 1).isSome := rfl
  have hproject : (layers.mapping? 4).isSome := rfl
  have hrun : layers.merge 1 4 = ((layers.merge 1 4).1, .ok 5) := rfl
  obtain ⟨-, hfails, hmerges⟩ := merge_overrides hsound huser hproject
  have hdeep : ¬ layers.MeetTooDeep 1 4 := by
    intro hmeet
    have herror := hfails hmeet
    rw [hrun] at herror
    cases herror
  obtain ⟨h₁, m, hmerge, hsound₁, -, hat, hagain⟩ := hmerges hdeep
  rw [hrun] at hmerge
  cases hmerge
  have hmerged : ((layers.merge 1 4).1.mapping? 5).isSome := rfl
  have hproject₁ : ((layers.merge 1 4).1.mapping? 4).isSome := rfl
  obtain ⟨-, hfails', -⟩ := merge_overrides hsound₁ hmerged hproject₁
  have hdeep' : ¬ (layers.merge 1 4).1.MeetTooDeep 5 4 := by
    intro hmeet
    have herror := hfails' hmeet
    have hrun' : ((layers.merge 1 4).1.merge 5 4).2 = .ok 7 := rfl
    rw [hrun'] at herror
    cases herror
  exact ⟨hsound, huser, hproject, hdeep, _, 5, hrun, hat, .step rfl (.step rfl (.here _)),
    .step rfl (.here _), hdeep', hagain hdeep'⟩

/-- An empty mapping inside others, each of which holds the one before it. -/
def chain : Nat → Heap
  | 0 => (Heap.empty.alloc (.mapping [])).1
  | n + 1 => ((chain n).alloc (.mapping [(.text "k", .ref n)])).1

private theorem fresh_chain (n : Nat) : (chain n).fresh = n + 1 := by
  induction n with
  | zero => rfl
  | succ n ih => rw [chain, fresh_alloc, ih]

private theorem sound_chain (n : Nat) : (chain n).Sound := by
  induction n with
  | zero => decide
  | succ n ih =>
    refine ih.alloc (List.pairwise_singleton _ _) fun s hs => ?_
    rw [List.mem_singleton.mp hs]
    exact ⟨by rw [fresh_chain]; exact Nat.lt_succ_self n, by simp⟩

private theorem grows_chain {i n : Nat} (hle : i ≤ n) : (chain i).Grows (chain n) := by
  induction hle with
  | refl => exact .refl _
  | step _ ih => exact ih.trans (grows_alloc _ _)

private theorem mapping?_chain_zero {n : Nat} (hg : (chain n).Grows h) : h.mapping? 0 = some [] :=
  ((grows_chain (Nat.zero_le n)).trans hg).mapping? rfl

private theorem mapping?_chain_succ {i n : Nat} (hg : (chain n).Grows h) (hlt : i < n) :
    h.mapping? (i + 1) = some [(.text "k", .ref i)] := by
  refine ((grows_chain hlt).trans hg).mapping? ?_
  rw [← fresh_chain i, chain]
  exact mapping?_alloc _

private theorem isSome_mapping?_chain {i n : Nat} (hg : (chain n).Grows h) (hle : i ≤ n) :
    (h.mapping? i).isSome := by
  cases i with
  | zero => exact Option.isSome_of_eq_some (mapping?_chain_zero hg)
  | succ i => exact Option.isSome_of_eq_some (mapping?_chain_succ hg hle)

private theorem meet_chain {depth i n : Nat} (hg : (chain n).Grows h) (hdepth : depth ≤ i)
    (hle : i ≤ n) :
    h.Meet (.ref i) (.ref i) (List.replicate depth (.text "k")) := by
  induction depth generalizing i with
  | zero => exact meet_nil (isSome_mapping?_chain hg hle) (isSome_mapping?_chain hg hle)
  | succ depth ih =>
    obtain ⟨i, rfl⟩ := Nat.exists_eq_succ_of_ne_zero (Nat.ne_zero_of_lt hdepth)
    have hlink := mapping?_chain_succ hg hle
    have hrest := ih (Nat.le_of_succ_le_succ hdepth) (Nat.le_of_succ_le hle)
    exact (meet_mappings_iff hlink hlink).mpr ⟨_, _, _, rfl, rfl, rfl, hrest⟩

private theorem meet_of_overlaid_chain {depth i n m : Nat} (hg : (chain n).Grows h)
    (hdepth : depth ≤ i)
    (hlt : i < n) (hover : Overlaid (chain n) first h (some (.ref 0)) (some (.ref (i + 1)))
      (some (.ref m))) :
    h.Meet (.ref m) (.ref (i + 1)) (List.replicate (depth + 1) (.text "k")) := by
  have hzero : (chain n).mapping? 0 = some [] := mapping?_chain_zero (.refl _)
  have hlater := mapping?_chain_succ (.refl (chain n)) hlt
  cases hover with
  | replaced hnot =>
    exact absurd (meet_nil (Option.isSome_of_eq_some hzero) (Option.isSome_of_eq_some hlater))
      (not_meet hnot)
  | merged hb hl hm _ _ heach =>
    rw [hzero] at hb
    rw [hlater] at hl
    cases hb
    cases hl
    have hkey : Overlaid (chain n) first h none (some (.ref i)) _ := heach (.text "k")
    exact (meet_mappings_iff hm (mapping?_chain_succ hg hlt)).mpr
      ⟨_, _, _, rfl, hkey.eq_of_left_none, rfl, meet_chain hg hdepth (Nat.le_of_lt hlt)⟩

/-- Merging a chain of 1100 mappings over itself fails. Over the empty mapping it succeeds, and then
merging it again fails. -/
theorem merge_chain_fails :
    let h := chain 1100
    h.Sound ∧ (h.mapping? 0).isSome ∧ (h.mapping? 1100).isSome ∧
      (h.merge 1100 1100).2 = .error .tooDeep ∧
      ∃ h₁ m, h.merge 0 1100 = (h₁, .ok m) ∧ (h₁.merge m 1100).2 = .error .tooDeep := by
  intro h
  have hsound : h.Sound := sound_chain 1100
  have hzero : (h.mapping? 0).isSome := isSome_mapping?_chain (.refl _) (Nat.zero_le _)
  have hlast : (h.mapping? 1100).isSome := isSome_mapping?_chain (.refl _) (Nat.le_refl _)
  refine ⟨hsound, hzero, hlast, ?_, ?_⟩
  · have hdeep : h.MeetTooDeep 1100 1100 :=
      ⟨_, List.length_replicate, meet_chain (.refl h) (by decide) (Nat.le_refl 1100)⟩
    rcases merge_cases hsound hlast hlast with ⟨-, h₁, hrun, -⟩ | ⟨hnot, -⟩
    · rw [hrun]
    · exact absurd hdeep hnot
  · rcases merge_cases hsound hzero hlast with
      ⟨⟨path, hlength, hmeet⟩, -⟩ | ⟨-, h₁, m, hrun, hg, hs, hover⟩
    · cases path with
      | nil => cases hlength
      | cons segment path =>
        obtain ⟨_, _, _, -, hfind, -⟩ := (meet_mappings_iff (mapping?_chain_zero (.refl _))
          (mapping?_chain_succ (.refl _) (Nat.lt_succ_self 1099))).mp hmeet
        cases hfind
    · have hdeep : h₁.MeetTooDeep m 1100 :=
        ⟨_, List.length_replicate, meet_of_overlaid_chain hg (by decide : 979 ≤ 1099)
          (Nat.lt_succ_self 1099) hover⟩
      have hlast₁ : (h₁.mapping? 1100).isSome := isSome_mapping?_chain hg (Nat.le_refl _)
      refine ⟨h₁, m, hrun, ?_⟩
      rcases merge_cases hs (hover.of_mappings hzero hlast).2 hlast₁ with
        ⟨-, h₂, hrun', -⟩ | ⟨hnot, -⟩
      · rw [hrun']
      · exact absurd hdeep hnot

end SceneBook.Heap
