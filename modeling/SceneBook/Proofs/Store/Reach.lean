import SceneBook.Proofs.Store.Coherence

/-!
# How far paths lead

A path can be walked as long as its next segment is a key of the mapping that has been reached. How
far that is decides what connecting comes to: a handle on the mapping where the path ends, or a
report of the segment at which it stops. Only a segment that is no key, and a path that goes on for
too long, keep both from being given.
-/

namespace SceneBook

namespace Heap

variable {h : Heap} {s last : Slot} {path : List Value}

/-- Where a segment leads from a slot, if this is a mapping that has it as a key. -/
def next? (h : Heap) (s : Slot) (segment : Value) : Option Slot :=
  ((h.mappingId? s).bind h.mapping?).bind fun es => segment.scalar?.bind es.find?

/-- The segments can be looked up one after the other on the way from one slot to another. -/
inductive Walks (h : Heap) : Slot → List Value → Slot → Prop
  | here (s : Slot) : Walks h s [] s
  | step {s next last : Slot} {segment : Value} {rest : List Value}
      (hnext : h.next? s segment = some next) (hrest : Walks h next rest last) :
      Walks h s (segment :: rest) last

/-- The longest beginning of a path that can be walked from a slot has this many segments, and it
ends at this slot. -/
structure Furthest (h : Heap) (s : Slot) (path : List Value) (k : Nat) (last : Slot) : Prop where
  le : k ≤ path.length
  walks : h.Walks s (path.take k) last
  most : ∀ j ≤ path.length, ∀ other, h.Walks s (path.take j) other → j ≤ k

private theorem Walks.unique {other : Slot} (hlast : h.Walks s path last)
    (hother : h.Walks s path other) :
    last = other := by
  induction hlast with
  | here s =>
    cases hother
    rfl
  | step hnext _ ih =>
    cases hother with
    | step hnext' hrest' =>
      rw [hnext] at hnext'
      cases hnext'
      exact ih hrest'

private theorem walks_append_iff {p q : List Value} :
    h.Walks s (p ++ q) last ↔ ∃ mid, h.Walks s p mid ∧ h.Walks mid q last := by
  induction p generalizing s with
  | nil =>
    constructor
    · intro hlast
      exact ⟨s, .here s, hlast⟩
    · rintro ⟨mid, ⟨⟩, hlast⟩
      exact hlast
  | cons segment rest ih =>
    constructor
    · rintro (_ | ⟨hnext, hrest⟩)
      obtain ⟨mid, hmid, hlast⟩ := ih.mp hrest
      exact ⟨mid, .step hnext hmid, hlast⟩
    · rintro ⟨mid, _ | ⟨hnext, hrest⟩, hlast⟩
      exact .step hnext (ih.mpr ⟨mid, hrest, hlast⟩)

theorem exists_furthest (h : Heap) (s : Slot) (path : List Value) :
    ∃ k last, h.Furthest s path k last := by
  induction path generalizing s with
  | nil => exact ⟨0, s, Nat.le_refl _, .here s, fun j hj _ _ => hj⟩
  | cons segment rest ih =>
    cases hnext : h.next? s segment with
    | none =>
      refine ⟨0, s, Nat.zero_le _, .here s, fun j _ other hother => ?_⟩
      cases j with
      | zero => exact Nat.le_refl _
      | succ j =>
        -- No step leads away from the slot.
        cases hother with
        | step hstep _ =>
          rw [hnext] at hstep
          cases hstep
    | some next =>
      obtain ⟨k, last, hk⟩ := ih next
      refine ⟨k + 1, last, Nat.succ_le_succ hk.le, .step hnext hk.walks,
        fun j hj other hother => ?_⟩
      cases j with
      | zero => exact Nat.zero_le _
      | succ j =>
        cases hother with
        | step hstep hrest =>
          rw [hnext] at hstep
          cases hstep
          exact Nat.succ_le_succ (hk.most j (Nat.le_of_succ_le_succ hj) other hrest)

namespace Furthest

variable {k : Nat}

private theorem unique {k' : Nat} {last' : Slot} (hk : h.Furthest s path k last)
    (hk' : h.Furthest s path k' last') : k' = k ∧ last' = last := by
  have hsame : k' = k :=
    Nat.le_antisymm (hk.most k' hk'.le last' hk'.walks) (hk'.most k hk.le last hk.walks)
  subst hsame
  exact ⟨rfl, hk'.walks.unique hk.walks⟩

theorem of_walks (hlast : h.Walks s path last) : h.Furthest s path path.length last where
  le := Nat.le_refl _
  walks := by rwa [List.take_length]
  most _ hj _ _ := hj

/-- A path goes no further than to where its next segment leads nowhere. -/
theorem of_stop {p : List Value} {segment : Value} (hp : h.Walks s p last)
    (hnone : h.next? last segment = none) (rest : List Value) :
    h.Furthest s (p ++ segment :: rest) p.length last where
  le := by simp
  walks := by rwa [List.take_left]
  most j _ other hother := by
    by_contra hfurther
    obtain ⟨n, rfl⟩ := Nat.exists_eq_add_of_lt (Nat.lt_of_not_le hfurther)
    rw [Nat.add_assoc, List.take_length_add_append, List.take_succ_cons] at hother
    obtain ⟨mid, hmid, hrest⟩ := walks_append_iff.mp hother
    obtain rfl := hp.unique hmid
    cases hrest with
    | step hnext _ =>
      rw [hnone] at hnext
      cases hnext

private theorem next?_eq_none (hk : h.Furthest s path k last) (hlt : k < path.length) :
    h.next? last path[k] = none := by
  cases hnext : h.next? last path[k] with
  | none => rfl
  | some next =>
    have hlonger : h.Walks s (path.take (k + 1)) next := by
      rw [List.take_succ_eq_append_getElem hlt]
      exact walks_append_iff.mpr ⟨last, hk.walks, .step hnext (.here next)⟩
    exact absurd (hk.most (k + 1) hlt next hlonger) (Nat.not_succ_le_self k)

private theorem exists_walks (hk : h.Furthest s path k last) {j : Nat} (hj : j ≤ k) :
    ∃ mid, h.Walks s (path.take j) mid := by
  have hwalks := hk.walks
  rw [← List.take_append_drop j (path.take k), List.take_take, Nat.min_eq_left hj] at hwalks
  obtain ⟨mid, hmid, -⟩ := walks_append_iff.mp hwalks
  exact ⟨mid, hmid⟩

end Furthest

end Heap

namespace Store

open Heap

variable {h : Heap} {s last : Slot} {path : List Value} {k : Nat}

/-- Why a path that has led to a slot is not followed along the next segment. -/
def stopped [Limits] (h : Heap) (path : List Value) (s : Slot) (segment : Value) : Failure :=
  if (h.mappingId? s).isSome && !segment.isKey then .misuse .notAKey
  else (Report.storePath path segment).failure

private theorem follow_cons [Limits] (path : List Value) (s : Slot) (segment : Value)
    (rest : List Value) :
    follow h path s (segment :: rest) =
      match h.next? s segment with
      | some next => follow h path next rest
      | none => .error (stopped h path s segment) := by
  rw [follow, next?, stopped]
  cases hid : h.mappingId? s with
  | none => simp
  | some id =>
    cases hes : h.mapping? id with
    | none =>
      obtain rfl := eq_ref_of_mappingId? hid
      have hmapping := (mappingId?_ref_eq_some_iff.mp hid).2
      rw [hes] at hmapping
      cases hmapping
    | some es =>
      cases segment with
      | scalar key => cases hfind : es.find? key <;> simp [hes, hfind, Value.scalar?, Value.isKey]
      | tuple items =>
        cases hkeys : (Value.tuple items).isKey <;> simp [hes, hkeys, Entries.seek, Value.scalar?]
      | _ => simp [hes, Entries.seek, Value.scalar?, Value.isKey]

private theorem follow_append [Limits] (path : List Value) (s : Slot) (p q : List Value) :
    follow h path s (p ++ q) = follow h path s p >>= fun mid => follow h path mid q := by
  induction p generalizing s with
  | nil => rfl
  | cons segment rest ih =>
    rw [List.cons_append, follow_cons, follow_cons]
    cases h.next? s segment with
    | none => rfl
    | some next => exact ih next

private theorem follow_eq_ok_iff [Limits] {segments : List Value} :
    follow h path s segments = .ok last ↔ h.Walks s segments last := by
  induction segments generalizing s with
  | nil =>
    constructor
    · rintro ⟨⟩
      exact .here _
    · rintro ⟨⟩
      rfl
  | cons segment rest ih =>
    rw [follow_cons]
    constructor
    · intro hfollow
      cases hnext : h.next? s segment with
      | none =>
        rw [hnext] at hfollow
        cases hfollow
      | some next =>
        rw [hnext] at hfollow
        exact .step hnext (ih.mp hfollow)
    · rintro (_ | ⟨hnext, hrest⟩)
      rw [hnext]
      exact ih.mpr hrest

private theorem follow_of_next?_eq_none [Limits] (path : List Value) {p : List Value}
    {segment : Value}
    (hp : h.Walks s p last) (hnone : h.next? last segment = none) (rest : List Value) :
    follow h path s (p ++ segment :: rest) = .error (stopped h path last segment) := by
  rw [follow_append, follow_eq_ok_iff.mpr hp]
  change follow h path last (segment :: rest) = _
  rw [follow_cons, hnone]

/-- The path ends, or stops, before it has been followed for too long. -/
def Settles [Limits] (path : List Value) (k : Nat) : Prop := min (k + 1) path.length ≤ Limits.path

instance [Limits] (path : List Value) (k : Nat) : Decidable (Settles path k) :=
  inferInstanceAs (Decidable (min (k + 1) path.length ≤ Limits.path))

private theorem walk_of_stopped [Limits] (hk : h.Furthest s path k last) (hlt : k < path.length)
    (hsettles : Settles path k) : walk h path s = .error (stopped h path last path[k]) := by
  have hlimit : k < Limits.path := by
    unfold Settles at hsettles
    omega
  have hlt' : k < (path.take Limits.path).length := by
    rw [List.length_take]
    omega
  have hsplit : path.take Limits.path =
      path.take k ++ path[k] :: (path.take Limits.path).drop (k + 1) := by
    conv_lhs => rw [← List.take_append_drop k (path.take Limits.path)]
    rw [List.take_take, Nat.min_eq_left (Nat.le_of_lt hlimit), List.drop_eq_getElem_cons hlt',
      List.getElem_take]
  rw [walk, hsplit, follow_of_next?_eq_none path hk.walks (hk.next?_eq_none hlt)]
  rfl

theorem walk_of_ended [Limits] (hk : h.Furthest s path path.length last)
    (hsettles : Settles path path.length) :
    walk h path s = match h.mappingId? last with
      | some id => .ok id
      | none => .error (Report.storePath path (path.getLast?.getD .null)).failure := by
  have hle : path.length ≤ Limits.path := by
    unfold Settles at hsettles
    omega
  have hwalks := hk.walks
  rw [List.take_length] at hwalks
  have hfollow : follow h path s path = .ok last := follow_eq_ok_iff.mpr hwalks
  rw [walk, List.take_of_length_le hle, hfollow]
  change (if Limits.path < path.length then _ else _) = _
  exact if_neg (Nat.not_lt.mpr hle)

/-- The segment that a report names: the first that leads nowhere, or the last if all lead on. -/
def blamed (path : List Value) (k : Nat) : Value := (path[k]?.or path.getLast?).getD .null

private theorem walk_settled_eq_ok_iff [Limits] (hk : h.Furthest s path k last)
    (hsettles : Settles path k)
    {id : Nat} : walk h path s = .ok id ↔ k = path.length ∧ h.mappingId? last = some id := by
  rcases Nat.lt_or_eq_of_le hk.le with hlt | rfl
  · rw [walk_of_stopped hk hlt hsettles]
    exact ⟨nofun, fun hall => absurd hall.1 (Nat.ne_of_lt hlt)⟩
  · rw [walk_of_ended hk hsettles]
    cases h.mappingId? last with
    | none => exact ⟨nofun, fun hid => nomatch hid.2⟩
    | some id' => simp

private theorem walk_of_not_reached [Limits] (hk : h.Furthest s path k last)
    (hsettles : Settles path k)
    (hkey : ∀ segment ∈ path[k]?, (h.mappingId? last).isSome → segment.isKey)
    (hnot : ¬ (k = path.length ∧ (h.mappingId? last).isSome)) :
    walk h path s = .error (Report.storePath path (blamed path k)).failure := by
  rcases Nat.lt_or_eq_of_le hk.le with hlt | rfl
  · have hsegment : path[k]? = some path[k] := List.getElem?_eq_getElem hlt
    have hlooked : ((h.mappingId? last).isSome && !path[k].isKey) = false := by
      cases hmapping : (h.mappingId? last).isSome with
      | false => rfl
      | true => simpa using hkey _ hsegment hmapping
    rw [walk_of_stopped hk hlt hsettles, stopped, hlooked, blamed, hsegment]
    rfl
  · have hnone : h.mappingId? last = none := by simpa using hnot
    rw [walk_of_ended hk hsettles, hnone, blamed, List.getElem?_length, Option.none_or]

theorem walk_of_not_settles [Limits] (hk : h.Furthest s path k last) (hlong : ¬ Settles path k) :
    walk h path s = .error (.misuse .tooDeep) := by
  unfold Settles at hlong
  obtain ⟨mid, hmid⟩ := hk.exists_walks (j := Limits.path) (by omega)
  have hfollow : follow h path s (path.take Limits.path) = .ok mid := follow_eq_ok_iff.mpr hmid
  rw [walk, hfollow]
  change (if Limits.path < path.length then _ else _) = _
  rw [if_pos (by omega)]

theorem connect_parts [Limits] (h : Heap) (st : Store) {path : Value} {segments : List Value}
    (hpath : path.parts = .ok segments) :
    st.connect h path = (walk h segments (.ref st.top)).map fun id => ⟨segments, id⟩ := by
  have hgiven : path.isNull = false := by
    unfold Value.isNull
    split
    · cases hpath
    · rfl
  simp only [connect, hgiven, Bool.false_eq_true, if_false, hpath, Except.mapError, bind,
    Except.bind]
  cases walk h segments (.ref st.top) <;> rfl

/-- Without a path the root key alone is the path. -/
theorem connect_null [Limits] (h : Heap) (st : Store) :
    st.connect h .null = st.connect h (.list [.scalar st.rootKey]) := rfl

end Store

namespace Session

open Heap Store

variable {x : Session} {i : Nat} {st : Store} {path : Value}

/-- To connect changes no object, and if it fails then nothing at all. -/
theorem step_connect [Limits] (hst : x.stores[i]? = some st) (path : Value) :
    (x.step (.connect i path)).heap = x.heap ∧
      ((∀ n, st.connect x.heap path ≠ .ok n) → x.step (.connect i path) = x) := by
  have hact : x.act? (.connect i path) =
      (st.connect x.heap path).toOption.map fun n => { x with nodes := x.nodes ++ [n] } := by
    simp only [act?, hst, Option.bind_eq_bind, Option.bind_some]
    cases st.connect x.heap path <;> rfl
  rw [step, hact]
  cases hconnect : st.connect x.heap path with
  | error f => exact ⟨rfl, fun _ => rfl⟩
  | ok n => exact ⟨rfl, fun hfails => absurd rfl (hfails n)⟩

/-- How far a path can be walked from the top of a store decides what connecting comes to. If that
is its whole length and a mapping is reached, the handle has the path and is bound to this mapping.
If it is not, the report has the path and names the segment that leads nowhere, or the last one,
as long as the segments can be written into its message. A segment that is no key cannot be looked
up, and a path that goes on for too long is given up. -/
theorem connect_decided [Limits] (hst : x.stores[i]? = some st) {segments : List Value}
    (hpath : path.parts = .ok segments) :
    ∃ k last, x.heap.Furthest (.ref st.top) segments k last ∧
      (∀ k' last', x.heap.Furthest (.ref st.top) segments k' last' → k' = k ∧ last' = last) ∧
      (Settles segments k →
        (∀ n, st.connect x.heap path = .ok n ↔ k = segments.length ∧
          x.heap.mappingId? last = some n.target ∧ n.path = segments) ∧
        (¬ (k = segments.length ∧ (x.heap.mappingId? last).isSome) →
          (∀ segment ∈ segments[k]?, (x.heap.mappingId? last).isSome → segment.isKey) →
            let report := Report.storePath segments (blamed segments k)
            (report.obstacle? = none → st.connect x.heap path = .error (.report report)) ∧
              ∀ e, report.obstacle? = some e → st.connect x.heap path = .error (.misuse e)) ∧
        ∀ segment ∈ segments[k]?, (x.heap.mappingId? last).isSome → segment.isKey = false →
          st.connect x.heap path = .error (.misuse .notAKey)) ∧
      (¬ Settles segments k → st.connect x.heap path = .error (.misuse .tooDeep)) ∧
      (x.step (.connect i path)).heap = x.heap ∧
      ((∀ n, st.connect x.heap path ≠ .ok n) → x.step (.connect i path) = x) ∧
      st.connect x.heap .null = st.connect x.heap (.list [.scalar st.rootKey]) := by
  obtain ⟨k, last, hk⟩ := exists_furthest x.heap (.ref st.top) segments
  obtain ⟨hheap, hsame⟩ := step_connect hst path
  refine ⟨k, last, hk, fun k' last' hk' => hk.unique hk', ?_, ?_, hheap, hsame,
    connect_null x.heap st⟩
  all_goals rw [connect_parts x.heap st hpath]
  · intro hsettles
    refine ⟨fun n => ?_, fun hnot hkey => ?_, fun segment hsegment hmapping hkey => ?_⟩
    · rw [map_eq_ok_iff]
      constructor
      · rintro ⟨id, hwalk, rfl⟩
        obtain ⟨hall, hid⟩ := (walk_settled_eq_ok_iff hk hsettles).mp hwalk
        exact ⟨hall, hid, rfl⟩
      · rintro ⟨hall, hid, rfl⟩
        exact ⟨n.target, (walk_settled_eq_ok_iff hk hsettles).mpr ⟨hall, hid⟩, rfl⟩
    · rw [walk_of_not_reached hk hsettles hkey hnot, Report.failure]
      constructor
      · intro hwritten
        rw [hwritten]
        rfl
      · intro e hobstacle
        rw [hobstacle]
        rfl
    · obtain ⟨hlt, rfl⟩ := List.getElem?_eq_some_iff.mp hsegment
      rw [walk_of_stopped hk hlt hsettles, stopped, hmapping, hkey]
      rfl
  · intro hlong
    rw [walk_of_not_settles hk hlong]
    rfl

/-- A path through a color, which is no mapping, and on. -/
theorem connect_decided_themed :
    let st : Store := ⟨.text "root", 5⟩
    let segments : List Value :=
      [.text "root", .text "config", .text "theme", .text "color", .text "shade"]
    themed.stores[0]? = some st ∧ (Value.list segments).parts = .ok segments ∧
      st.connect themed.heap (.list segments) =
        .error (.report (.storePath segments (.text "shade"))) ∧
      themed.step (.connect 0 (.list segments)) = themed := by
  intro st segments
  have hst : themed.stores[0]? = some st := rfl
  have hpath : (Value.list segments).parts = .ok segments := rfl
  obtain ⟨k, last, hk, -, hsettled, -, -, hsame, -⟩ := connect_decided hst hpath
  have hfour : themed.heap.Furthest (.ref st.top) segments 4 (.scalar (.text "red")) :=
    .of_stop (.step rfl (.step rfl (.step rfl (.step rfl (.here _))))) rfl []
  obtain ⟨rfl, rfl⟩ := hfour.unique hk
  obtain ⟨-, hnot, -⟩ := hsettled (by decide)
  have hreport := (hnot (by simp [segments]) (by simp [Heap.mappingId?])).1 (by decide +kernel)
  refine ⟨hst, hpath, hreport, hsame fun n hn => ?_⟩
  rw [hreport] at hn
  cases hn

/-- A store whose root mapping holds itself, with a handle on it. -/
def looped : Session :=
  (start []).run [.create (.text "root"), .connect 0 .null, .link 0 (.text "self") 0]

theorem walks_looped (n : Nat) :
    looped.heap.Walks (.ref 1) (List.replicate n (.text "self")) (.ref 1) := by
  induction n with
  | zero => exact .here _
  | succ n ih => exact .step rfl ih

/-- The root is reached again along a path of any length, but it is not connected to by a path that
is too long, nor is a list reported that stands where a key should. -/
theorem long_path_given_up :
    let st : Store := ⟨.text "root", 2⟩
    let path : List Value := .text "root" :: List.replicate 1200 (.text "self")
    looped.stores[0]? = some st ∧
    looped.heap.Furthest (.ref st.top) path path.length (.ref 1) ∧
    looped.heap.mappingId? (.ref 1) = some 1 ∧
    st.connect looped.heap (.list path) = .error (.misuse .tooDeep) ∧
    looped.heap.Furthest (.ref st.top) [.text "root", .list []] 1 (.ref 1) ∧
    st.connect looped.heap (.list [.text "root", .list []]) = .error (.misuse .notAKey) := by
  intro st path
  have hlong : looped.heap.Furthest (.ref st.top) path path.length (.ref 1) :=
    .of_walks (.step rfl (walks_looped 1200))
  have hlist : looped.heap.Furthest (.ref st.top) [.text "root", .list []] 1 (.ref 1) :=
    .of_stop (.step rfl (.here _)) rfl []
  have hlength : path.length = 1201 := by rw [List.length_cons, List.length_replicate]
  have hunsettled : ¬ Settles path path.length := by
    rw [Settles, hlength]
    decide
  have hparts : (Value.list path).parts = .ok path := rfl
  refine ⟨rfl, hlong, rfl, ?_, hlist, rfl⟩
  rw [connect_parts looped.heap st hparts, walk_of_not_settles hlong hunsettled]
  rfl

end Session

end SceneBook
