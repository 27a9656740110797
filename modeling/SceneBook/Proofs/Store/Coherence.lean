import SceneBook.Proofs.Mount.Writes
import SceneBook.Proofs.Store.Routes
import SceneBook.Proofs.Store.Session

/-!
# Coherent handles

A handle and the path it was connected by stay together: until something else is put under a key on
the way, connecting the path again gives a handle on the same mapping, and both read the same.
-/

namespace SceneBook

open Heap

namespace Session

variable {x y : Session}

/-- What an action puts under keys of mappings that were there before. -/
def writes [Limits] (x : Session) : Action → List Write
  | .mount program _ rootKey =>
    if program.slots.all x.holds then Mount.writes x.heap program (.ref x.initial) rootKey else []
  | .run i number context =>
    match x.programs[i]? with
    | some m => if x.holds context then m.writes x.heap number context else []
    | none => []
  | .set i key v =>
    match x.nodes[i]? with
    | some n => n.writes key (x.heap.add v).2
    | none => []
  | .put i key j =>
    match x.nodes[i]?, x.held[j]? with
    | some n, some s => n.writes key s
    | _, _ => []
  | .link i key j =>
    match x.nodes[i]?, x.nodes[j]? with
    | some n, some target => n.writes key (.ref target.target)
    | _, _ => []
  | .create _ | .connect .. | .get .. | .hold _ | .push .. | .append .. | .snapshot _ => []

theorem rewrites_of_act [Limits] {a : Action} (hy : x.act? a = some y) :
    Rewrites (x.writes a) x.heap y.heap := by
  cases a with
  | create rootKey =>
    obtain ⟨⟨h, st⟩, hmade, hy⟩ := Option.bind_eq_some_iff.mp hy
    cases hy
    exact Mount.rewrites_create (toOption_eq_some_iff.mp hmade)
  | mount program mountpoint rootKey =>
    rw [act?] at hy
    rw [writes]
    split at hy
    · next hheld =>
      have hmounted := Mount.rewrites_mount x.heap program (.ref x.initial) mountpoint rootKey
      rw [if_pos hheld]
      split at hy
      all_goals
        next hmount =>
        rw [hmount] at hmounted
        cases hy
        exact hmounted
    · cases hy
  | run i number context =>
    obtain ⟨m, hm, hy⟩ := Option.bind_eq_some_iff.mp hy
    split at hy
    · next hcontext =>
      cases hy
      simp only [writes, hm, if_pos hcontext]
      exact m.rewrites x.heap number context
    · cases hy
  | connect i path =>
    obtain ⟨st, _, hy⟩ := Option.bind_eq_some_iff.mp hy
    obtain ⟨n, _, hy⟩ := Option.bind_eq_some_iff.mp hy
    cases hy
    exact .refl x.heap
  | get i key =>
    obtain ⟨n, _, hy⟩ := Option.bind_eq_some_iff.mp hy
    obtain ⟨found, _, hy⟩ := Option.bind_eq_some_iff.mp hy
    obtain ⟨s, _, hy⟩ := Option.bind_eq_some_iff.mp hy
    cases hy
    exact .refl x.heap
  | hold v =>
    cases hy
    exact (grows_add x.heap v).rewrites
  | set i key v =>
    obtain ⟨n, hn, hy⟩ := Option.bind_eq_some_iff.mp hy
    obtain ⟨h, hset, hy⟩ := Option.bind_eq_some_iff.mp hy
    cases hy
    simp only [writes, hn]
    exact Node.rewrites_set (toOption_eq_some_iff.mp hset)
  | put i key j =>
    obtain ⟨n, hn, hy⟩ := Option.bind_eq_some_iff.mp hy
    obtain ⟨s, hs, hy⟩ := Option.bind_eq_some_iff.mp hy
    obtain ⟨h, hput, hy⟩ := Option.bind_eq_some_iff.mp hy
    cases hy
    simp only [writes, hn, hs]
    exact Node.rewrites_put (toOption_eq_some_iff.mp hput)
  | link i key j =>
    obtain ⟨n, hn, hy⟩ := Option.bind_eq_some_iff.mp hy
    obtain ⟨target, htarget, hy⟩ := Option.bind_eq_some_iff.mp hy
    obtain ⟨h, hput, hy⟩ := Option.bind_eq_some_iff.mp hy
    cases hy
    simp only [writes, hn, htarget]
    exact Node.rewrites_put (toOption_eq_some_iff.mp hput)
  | push i key v =>
    obtain ⟨n, _, hy⟩ := Option.bind_eq_some_iff.mp hy
    obtain ⟨h, hpush, hy⟩ := Option.bind_eq_some_iff.mp hy
    cases hy
    exact Node.rewrites_push (toOption_eq_some_iff.mp hpush)
  | append i j =>
    obtain ⟨list, _, hy⟩ := Option.bind_eq_some_iff.mp hy
    obtain ⟨s, _, hy⟩ := Option.bind_eq_some_iff.mp hy
    split at hy
    · obtain ⟨items, hitems, hy⟩ := Option.bind_eq_some_iff.mp hy
      cases hy
      exact rewrites_write_sequence hitems _
    · cases hy
  | snapshot i =>
    obtain ⟨st, _, hy⟩ := Option.bind_eq_some_iff.mp hy
    obtain ⟨⟨h, id⟩, htaken, hy⟩ := Option.bind_eq_some_iff.mp hy
    obtain ⟨es, _, htaken⟩ := bind_eq_ok_iff.mp (toOption_eq_some_iff.mp htaken)
    cases htaken
    cases hy
    exact (grows_alloc x.heap _).rewrites

private theorem writes_of_act_none [Limits] {a : Action} (hnone : x.act? a = none) :
    x.writes a = [] := by
  cases a with
  | mount program mountpoint rootKey =>
    rw [act?] at hnone
    rw [writes]
    split at hnone
    · split at hnone <;> cases hnone
    · next hheld => rw [if_neg hheld]
  | run i number context =>
    rw [writes]
    split
    · next m hm =>
      simp only [act?, hm, Option.bind_eq_bind, Option.bind_some] at hnone
      split at hnone
      · cases hnone
      · next hcontext => rw [if_neg hcontext]
    · rfl
  | set i key v =>
    rw [writes]
    split
    · next n hn =>
      cases hput : (n.put (x.heap.add v).1 key (x.heap.add v).2).toOption with
      | none => exact Node.writes_of_put_none hput
      | some h => simp [act?, hn, Node.set, hput] at hnone
    · rfl
  | put i key j =>
    rw [writes]
    split
    · next n s hn hs =>
      cases hput : (n.put x.heap key s).toOption with
      | none => exact Node.writes_of_put_none hput
      | some h => simp [act?, hn, hs, hput] at hnone
    · rfl
  | link i key j =>
    rw [writes]
    split
    · next n target hn htarget =>
      cases hput : (n.put x.heap key (.ref target.target)).toOption with
      | none => exact Node.writes_of_put_none hput
      | some h => simp [act?, hn, htarget, hput] at hnone
    · rfl
  | _ => rfl

theorem rewrites_step [Limits] (x : Session) (a : Action) :
    Rewrites (x.writes a) x.heap (x.step a).heap := by
  unfold step
  cases hact : x.act? a with
  | none =>
    rw [writes_of_act_none hact]
    exact .refl x.heap
  | some y => exact rewrites_of_act hact

/-- Whether no action of a run puts anything else under the key of one of the links. -/
def Spares [Limits] (links : List Link) (x : Session) : List Action → Prop
  | [] => True
  | a :: rest => (∀ w ∈ x.writes a, ∀ l ∈ links, w.Spares l) ∧ Spares links (x.step a) rest

instance [Limits] (links : List Link) : (x : Session) → (actions : List Action) →
    Decidable (x.Spares links actions)
  | _, [] => isTrue trivial
  | x, a :: rest =>
    have := instDecidableSpares links (x.step a) rest
    inferInstanceAs (Decidable (_ ∧ _))

private theorem route_run [Limits] {links : List Link} {m last : Nat} {segments : List Value}
    {actions : List Action} (hroute : x.heap.Route m segments links last)
    (hspares : x.Spares links actions) : (x.run actions).heap.Route m segments links last := by
  induction actions generalizing x with
  | nil => exact hroute
  | cons a rest ih =>
    obtain ⟨hfirst, hrest⟩ := hspares
    exact ih ((rewrites_step x a).changes.route hroute hfirst) hrest

/-- A path is walked along links. While the actions of a host put nothing else in the place of
these, whatever else they do, the path leads to the mapping of the handle that it gave at first, and
all that happens later is read alike through the new handle and the old one. -/
theorem connect_coherent [Limits] (st : Store) (path : Value) (n : Node)
    (hn : st.connect x.heap path = .ok n) :
    (∃ links, x.heap.Route st.top n.path links n.target) ∧
      ∀ links, x.heap.Route st.top n.path links n.target →
        ∀ later, x.Spares links later →
          ∃ n', st.connect (x.run later).heap path = .ok n' ∧ n'.target = n.target ∧
            ∀ further, let h := ((x.run later).run further).heap
              n'.keys h = n.keys h ∧
                ∀ key, n'.get h key = n.get h key ∧ n'.contains h key = n.contains h key := by
  refine ⟨Store.route_of_connect hn, fun links hroute later hspares => ?_⟩
  have hagain := Store.connect_of_route hn (route_run hroute hspares)
  exact ⟨n, hagain, rfl, fun further => ⟨rfl, fun key => ⟨rfl, rfl⟩⟩⟩

/-- A theme inside a configuration, with handles on it, on the root and on the configuration. -/
def themed : Session :=
  (start [(.text "config", .map [(.text "theme", .map [(.text "color", .text "red")])]),
      (.text "items", .list [])]).run
    [.create (.text "root"), .connect 0 (.list [.text "root", .text "config", .text "theme"]),
      .connect 0 .null, .connect 0 (.list [.text "root", .text "config"])]

/-- The theme put in its own place, the configuration under a second key and written to through it,
a list replaced by a longer one, and a color changed: the handle on the theme stays on its path. -/
theorem connect_coherent_themed :
    let st : Store := ⟨.text "root", 5⟩
    let path : Value := .list [.text "root", .text "config", .text "theme"]
    let n : Node := ⟨[.text "root", .text "config", .text "theme"], 0⟩
    let links : List Link := [⟨5, .text "root", 4⟩, ⟨4, .text "config", 1⟩, ⟨1, .text "theme", 0⟩]
    let later : List Action :=
      [.link 2 (.text "theme") 0, .link 1 (.text "alias") 2,
        .connect 0 (.list [.text "root", .text "alias"]), .set 3 (.text "size") (.int 3),
        .push 1 (.text "items") (.int 1), .set 0 (.text "color") (.text "blue")]
    st.connect themed.heap path = .ok n ∧ themed.Spares links later ∧
      ∃ n', st.connect (themed.run later).heap path = .ok n' ∧ n'.target = 0 := by
  intro st path n links later
  have hn : st.connect themed.heap path = .ok n := rfl
  have hspares : themed.Spares links later := by decide
  have hroute : themed.heap.Route 5 n.path links 0 :=
    .step ⟨_, rfl, rfl⟩ (.step ⟨_, rfl, rfl⟩ (.step ⟨_, rfl, rfl⟩ (.here rfl)))
  obtain ⟨n', hagain, htarget, -⟩ :=
    (connect_coherent st path n hn).2 links hroute later hspares
  exact ⟨hn, hspares, n', hagain, htarget⟩

/-- Another theme in the place of the first leaves the handle on the first. -/
example :
    let st : Store := ⟨.text "root", 5⟩
    let path : Value := .list [.text "root", .text "config", .text "theme"]
    let later := themed.run [.set 2 (.text "theme") (.map [])]
    (st.connect later.heap path).toOption.map Node.target = some 6 ∧
      (later.nodes.map Node.target) = [0, 4, 1] := by
  decide

end Session

end SceneBook
