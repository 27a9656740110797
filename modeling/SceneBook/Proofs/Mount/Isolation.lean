import SceneBook.Proofs.Mount.Twins
import SceneBook.Proofs.Store.Nodes
import SceneBook.Proofs.Value.Regions

/-!
# Isolated programs

Two programs are mounted on stores of their own from values that share nothing that can be changed.
However their scenes are run in turns, each program answers and ends up as if the other one had
never been asked for a scene. Scenes may do whatever they like with what they are given; scripts are
one kind of such scenes.
-/

namespace SceneBook.Mount

open Heap

variable {α : Type} [Supplied α] {R R' : Nat → Nat → Prop} {S T : Nat → Prop}
  {h h' g g' : Heap} {m m' : Bound α}

private theorem Bound.Like.works (hm : Bound.Like R h m m') (hw : Works T h h') :
    Bound.Like R h' m m' :=
  ⟨hm.scenes, hm.mountpoint, hm.store, hm.nodes.imp fun _ _ hpq =>
    ⟨hpq.1, hpq.2.path, hpq.2.target, hw.isSome_mapping? hpq.2.bound⟩, hm.slots⟩

private theorem Bound.Like.within (hm : Bound.Like R h m m') :
    Bound.Like (Within (Domain R)) h m m := by
  refine ⟨rfl, rfl, ⟨rfl, rfl, _, hm.store.top⟩, ?_, fun s hs => (hm.slots s hs).within⟩
  have hnodes := hm.nodes
  generalize m.nodes = ns at hnodes
  generalize m'.nodes = ms at hnodes
  induction hnodes with
  | nil => exact .nil
  | cons hpq _ ih => exact .cons ⟨rfl, rfl, ⟨rfl, _, hpq.2.target⟩, hpq.2.bound⟩ ih

/-- A mounted program of confined scenes keeps to a region that is closed. -/
structure Bound.KeepsTo [Playable α] (S : Nat → Prop) (h : Heap) (m : Bound α) : Prop where
  closed : Alike (Within S) h h
  own : Bound.Like (Within S) h m m
  confined : ∀ scene ∈ m.scenes, Confined scene

inductive Side
  | first
  | second
  deriving DecidableEq

namespace Side

def other : Side → Side
  | first => second
  | second => first

private theorem other_ne (side : Side) : side.other ≠ side := by
  cases side <;> decide

private theorem eq_other {s t : Side} (hne : s ≠ t) : s = t.other := by
  cases s <;> cases t <;> first | rfl | exact absurd rfl hne

end Side

/-- A scene that one of two programs is asked to run, in a context that is there from the start. -/
structure Request where
  side : Side
  number : Value
  context : Slot

def contexts (side : Side) (requests : List Request) : List Slot :=
  (requests.filter (·.side = side)).map Request.context

private theorem contexts_cons_own {side : Side} {r : Request} (hside : r.side = side)
    (rest : List Request) :
    contexts side (r :: rest) = r.context :: contexts side rest := by
  simp [contexts, hside]

private theorem contexts_cons_other {side : Side} {r : Request} (hside : r.side ≠ side)
    (rest : List Request) : contexts side (r :: rest) = contexts side rest := by
  simp [contexts, hside]

structure Pair (α : Type) where
  heap : Heap
  program : Side → Bound α

namespace Pair

variable [Playable α]

def of (h : Heap) (m k : Bound α) : Pair α where
  heap := h
  program
    | .first => m
    | .second => k

def dispatch [Limits] (x : Pair α) (r : Request) : Pair α × Except Failure Unit :=
  let (h, m, answer) := (x.program r.side).run x.heap r.number r.context
  (⟨h, fun side => if side = r.side then m else x.program side⟩, answer)

def run [Limits] (x : Pair α) (requests : List Request) : Pair α :=
  requests.foldl (fun x r => (x.dispatch r).1) x

def answers [Limits] (side : Side) (x : Pair α) : List Request → List (Except Failure Unit)
  | [] => []
  | r :: rest =>
    let (y, answer) := x.dispatch r
    if r.side = side then answer :: answers side y rest else answers side y rest

/-- One program of a pair is as it is in another pair, and separate from the region that the other
program keeps to. -/
structure Isolated (side : Side) (R : Nat → Nat → Prop) (S : Nat → Prop) (x y : Pair α) : Prop where
  alike : Alike R x.heap y.heap
  own : Bound.Like R x.heap (x.program side) (y.program side)
  confined : ∀ scene ∈ (x.program side).scenes, Confined scene
  other : (x.program side.other).KeepsTo S x.heap
  separate : Separate x.heap S (Domain R)

variable [Limits] {side : Side} {x y : Pair α} {r : Request}

private theorem Isolated.dispatch_own (hx : Isolated side R S x y) (hside : r.side = side)
    (hcontext : Slot.Like R r.context r.context) :
    ∃ R', (∀ a b, R a b → R' a b) ∧ Isolated side R' S (x.dispatch r).1 (y.dispatch r).1 ∧
      (x.dispatch r).2 = (y.dispatch r).2 := by
  subst hside
  obtain ⟨R', hp, hm, hanswer⟩ := hx.own.run hx.alike hx.confined r.number hcontext
  have hclosed := hx.other.closed
  have hother : (x.program r.side.other).KeepsTo S (x.dispatch r).1.heap :=
    ⟨hclosed.spared_within hp.left hx.separate, hx.other.own.works hp.left, hx.other.confined⟩
  refine ⟨R', hp.keeps, ⟨hp.alike, ?_, ?_, ?_, ?_⟩, hanswer⟩
  · simpa [dispatch] using hm
  · simpa [dispatch] using hx.confined
  · simpa [dispatch, Side.other_ne] using hother
  · exact hx.separate.parallel hp fun _ hS => hclosed.exists_get? (domain_within.mpr hS)

private theorem Isolated.dispatch_other (hx : Isolated side R S x y) (hside : r.side = side.other)
    (hcontext : Slot.Like (Within S) r.context r.context) :
    ∃ S' : Nat → Prop, (∀ a, S a → S' a) ∧ Isolated side R S' (x.dispatch r).1 y := by
  obtain ⟨T, hp, hm, -⟩ := hx.other.own.run hx.other.closed hx.other.confined r.number hcontext
  have hsep : Separate x.heap (Domain R) (Domain (Within S)) := fun id hR hS =>
    hx.separate id (domain_within.mp hS) hR
  have hother : (x.dispatch r).1.program side.other =
      ((x.program side.other).run x.heap r.number r.context).2.1 := by
    simp [dispatch, hside]
  have hown : (x.dispatch r).1.program side = x.program side := by
    simp [dispatch, hside, (Side.other_ne side).symm]
  have hheap : (x.dispatch r).1.heap =
      ((x.program side.other).run x.heap r.number r.context).1 := by
    simp [dispatch, hside]
  refine ⟨Domain T, fun a hS => ⟨a, hp.keeps a a ⟨rfl, hS⟩⟩, ?_, ?_, ?_, ?_, ?_⟩
  · rw [hheap]
    exact hx.alike.spared hp.left hsep
  · rw [hheap, hown]
    exact hx.own.works hp.left
  · rw [hown]
    exact hx.confined
  · rw [hheap, hother]
    refine ⟨hp.alike.within, hm.within, ?_⟩
    rw [Bound.scenes_run]
    exact hx.other.confined
  · rw [hheap]
    exact (hsep.parallel hp fun _ hR => hx.alike.exists_get? hR).symm

private theorem Isolated.run (hx : Isolated side R S x y) (requests : List Request)
    (hown : ∀ s ∈ contexts side requests, Slot.Like R s s)
    (hother : ∀ s ∈ contexts side.other requests, Slot.Like (Within S) s s) :
    let own := requests.filter (·.side = side)
    x.answers side requests = y.answers side own ∧
      ∃ R' S', (∀ a b, R a b → R' a b) ∧ Isolated side R' S' (x.run requests) (y.run own) := by
  induction requests generalizing R S x y with
  | nil => exact ⟨rfl, R, S, fun _ _ hab => hab, hx⟩
  | cons r rest ih =>
    by_cases hside : r.side = side
    · have hne : r.side ≠ side.other := hside ▸ (Side.other_ne side).symm
      rw [contexts_cons_own hside, List.forall_mem_cons] at hown
      rw [contexts_cons_other hne] at hother
      obtain ⟨R₁, hle, hnext, hanswer⟩ := hx.dispatch_own hside hown.1
      obtain ⟨hanswers, R', S', hle', hlast⟩ := ih hnext (fun s hs => (hown.2 s hs).mono hle) hother
      refine ⟨?_, R', S', fun a b hab => hle' a b (hle a b hab), ?_⟩
      · simp only [answers, List.filter_cons, hside, decide_true, if_true, hanswer, hanswers]
      · simpa [Pair.run, List.filter_cons, hside] using hlast
    · have hother' := Side.eq_other hside
      rw [contexts_cons_other hside] at hown
      rw [contexts_cons_own hother', List.forall_mem_cons] at hother
      obtain ⟨S₁, hle, hnext⟩ := hx.dispatch_other hother' hother.1
      have hwithin (a b : Nat) (hab : Within S a b) : Within S₁ a b := ⟨hab.1, hle a hab.2⟩
      obtain ⟨hanswers, R', S', hle', hlast⟩ :=
        ih hnext hown fun s hs => (hother.2 s hs).mono hwithin
      refine ⟨?_, R', S', hle', ?_⟩
      · simpa [answers, List.filter_cons, hside] using hanswers
      · simpa [Pair.run, List.filter_cons, hside] using hlast

/-- One of the programs answers the requests for it as if there were no others. What it is left with
is alike: its store, its nodes, the contexts it was given, and all that these refer to. -/
def Undisturbed (x : Pair α) (requests : List Request) (side : Side) : Prop :=
  let own := requests.filter (·.side = side)
  x.answers side requests = x.answers side own ∧
    ∃ R, Alike R (x.run requests).heap (x.run own).heap ∧
      Bound.Like R (x.run requests).heap ((x.run requests).program side)
        ((x.run own).program side) ∧
      ∀ s ∈ contexts side requests, Slot.Like R s s

private theorem undisturbed (hown : (x.program side).KeepsTo S x.heap)
    (hother : (x.program side.other).KeepsTo T x.heap) (hsep : Separate x.heap S T)
    (requests : List Request)
    (hcontexts : ∀ s ∈ contexts side requests, Slot.Like (Within S) s s)
    (hothers : ∀ s ∈ contexts side.other requests, Slot.Like (Within T) s s) :
    x.Undisturbed requests side := by
  have hx : Isolated side (Within S) T x x :=
    ⟨hown.closed, hown.own, hown.confined, hother,
      fun id ht hs => hsep id (domain_within.mp hs) ht⟩
  obtain ⟨hanswers, R, _, hle, hlast⟩ := hx.run requests hcontexts hothers
  exact ⟨hanswers, R, hlast.alike, hlast.own, fun s hs => (hcontexts s hs).mono hle⟩

end Pair

/-- What a store that starts from a value shares with it. -/
def initialSlots (h : Heap) (initial : Slot) : List Slot :=
  match Store.initialEntries h initial with
  | .ok es => es.map Prod.snd
  | .error _ => []

private theorem shares_initialSlots {kept : List Nat} {initial s : Slot} (hh : h.Apart kept)
    (hs : s ∈ initialSlots h initial) : h.Shares kept s := by
  unfold initialSlots at hs
  split at hs
  · next es hes => exact Store.shares_initialEntries hh hes s hs
  · cases hs

private theorem like_initialSlots {initial : Slot}
    (hS : ∀ s ∈ initialSlots h initial, Slot.Like (Within S) s s) :
    Agree (Entries.Like (Within S)) (Store.initialEntries h initial)
      (Store.initialEntries h initial) := by
  unfold initialSlots at hS
  cases hes : Store.initialEntries h initial with
  | error e => exact .error e
  | ok es =>
    rw [hes] at hS
    exact .ok (List.forall₂_same.mpr fun e he => ⟨rfl, hS e.2 (List.mem_map_of_mem he)⟩)

section

variable [Playable α] {h₁ h₂ : Heap} {k : Bound α} {p q : Factory α} {pGiven qGiven : List Slot}
  {pInitial qInitial : Slot} {pMountpoint qMountpoint pRootKey qRootKey : Value}

private theorem bind_within (hp : bind h p pInitial pMountpoint pRootKey = (h', .ok m))
    (hconfined : p.Confined pGiven) (ha : Alike (Within S) h h)
    (hes : Agree (Entries.Like (Within S)) (Store.initialEntries h pInitial)
      (Store.initialEntries h pInitial))
    (hgiven : ∀ s ∈ pGiven, Slot.Like (Within S) s s) :
    ∃ R, Parallel (Within S) h h R h' h' ∧ Bound.Like R h' m m ∧
      ∀ scene ∈ m.scenes, Confined scene := by
  obtain ⟨R, hparallel, hm⟩ := twins_bind ha hconfined hes hgiven pMountpoint pRootKey
  obtain ⟨w, hmade⟩ := handed_over hp
  have hscenes := hconfined.1 m.store w m.scenes (congrArg Prod.snd hmade)
  rw [hp] at hparallel hm
  cases hm with
  | ok hm => exact ⟨R, hparallel, hm, hscenes⟩

/-- Mounting one program and then another one leaves each in a region that has grown from its
own. -/
private theorem exists_separate (hp : bind h p pInitial pMountpoint pRootKey = (h₁, .ok m))
    (hq : bind h₁ q qInitial qMountpoint qRootKey = (h₂, .ok k))
    (hpConfined : p.Confined pGiven) (hqConfined : q.Confined qGiven)
    (hS : Alike (Within S) h h) (hT : Alike (Within T) h h) (hsep : Separate h S T)
    (hpInitial : ∀ s ∈ initialSlots h pInitial, Slot.Like (Within S) s s)
    (hpGiven : ∀ s ∈ pGiven, Slot.Like (Within S) s s)
    (hqInitial : Slot.Like (Within T) qInitial qInitial)
    (hqGiven : ∀ s ∈ qGiven, Slot.Like (Within T) s s) :
    ∃ S' T' : Nat → Prop, (∀ a, S a → S' a) ∧ (∀ a, T a → T' a) ∧
      m.KeepsTo S' h₂ ∧ k.KeepsTo T' h₂ ∧ Separate h₂ S' T' := by
  obtain ⟨R, hfirst, hm, hmScenes⟩ :=
    bind_within hp hpConfined hS (like_initialSlots hpInitial) hpGiven
  have hsep' : Separate h T (Domain (Within S)) := fun id ht hs =>
    hsep id (domain_within.mp hs) ht
  have hT₁ := hT.spared_within hfirst.left hsep'
  have hsep₁ : Separate h₁ (Domain R) (Domain (Within T)) := fun id hr ht =>
    hsep'.parallel hfirst (fun _ ht => hT.exists_get? (domain_within.mpr ht)) id
      (domain_within.mp ht) hr
  obtain ⟨R', hsecond, hk, hkScenes⟩ :=
    bind_within hq hqConfined hT₁ (Store.like_initialEntries hT₁ hqInitial) hqGiven
  refine ⟨Domain R, Domain R', fun a ha => ⟨a, hfirst.keeps a a ⟨rfl, ha⟩⟩,
    fun a ha => ⟨a, hsecond.keeps a a ⟨rfl, ha⟩⟩,
    ⟨hfirst.alike.within.spared_within hsecond.left hsep₁, hm.within.works hsecond.left, hmScenes⟩,
    ⟨hsecond.alike.within, hk.within, hkScenes⟩, ?_⟩
  exact hsep₁.parallel hsecond fun _ hr => hfirst.alike.exists_get? hr

/-- Programs of any confined scenes leave each other undisturbed, if what they are given is
separate. -/
theorem undisturbed_of_confined [Limits] (requests : List Request)
    (hp : bind h p pInitial pMountpoint pRootKey = (h₁, .ok m))
    (hq : bind h₁ q qInitial qMountpoint qRootKey = (h₂, .ok k))
    (hpConfined : p.Confined pGiven) (hqConfined : q.Confined qGiven) (hh : h.Apart [])
    (hfirst : ∀ s ∈ pGiven ++ contexts .first requests, h.Shares [] s)
    (hsecond : ∀ s ∈ qInitial :: (qGiven ++ contexts .second requests), h.Shares [] s)
    (hseparate : Separate h
      (h.Leads (initialSlots h pInitial ++ (pGiven ++ contexts .first requests)))
      (h.Leads (qInitial :: (qGiven ++ contexts .second requests)))) :
    ∀ side, (Pair.of h₂ m k).Undisturbed requests side := by
  have hfirst' : ∀ s ∈ initialSlots h pInitial ++ (pGiven ++ contexts .first requests),
      h.Shares [] s :=
    List.forall_mem_append.mpr ⟨fun s hs => shares_initialSlots hh hs, hfirst⟩
  obtain ⟨S, T, hS, hT, hm, hk, hsep⟩ := exists_separate hp hq hpConfined hqConfined
    (alike_leads hh hfirst') (alike_leads hh hsecond) hseparate
    (fun s hs => like_leads (by simp [hs])) (fun s hs => like_leads (by simp [hs]))
    (like_leads (by simp)) (fun s hs => like_leads (by simp [hs]))
  have hfirstContexts (s : Slot) (hs : s ∈ contexts .first requests) : Slot.Like (Within S) s s :=
    (like_leads (by simp [hs])).mono fun a b hab => ⟨hab.1, hS a hab.2⟩
  have hsecondContexts (s : Slot) (hs : s ∈ contexts .second requests) :
      Slot.Like (Within T) s s :=
    (like_leads (by simp [hs])).mono fun a b hab => ⟨hab.1, hT a hab.2⟩
  intro side
  cases side with
  | first => exact Pair.undisturbed hm hk hsep requests hfirstContexts hsecondContexts
  | second => exact Pair.undisturbed hk hm hsep.symm requests hsecondContexts hfirstContexts

end

/-- However the requests for two programs are mixed, each program gives the answers that it gives
when it is asked alone, and its store, its nodes and its contexts end up alike. -/
theorem programs_isolated [Limits] {h₁ h₂ : Heap} {m k : Mounted} {p q : Program}
    {pInitial qInitial : Slot} {pMountpoint qMountpoint pRootKey qRootKey : Value}
    (requests : List Request) (hp : mount h p pInitial pMountpoint pRootKey = (h₁, .ok m))
    (hq : mount h₁ q qInitial qMountpoint qRootKey = (h₂, .ok k))
    (hh : h.Apart [])
    (hfirst : ∀ s ∈ p.slots ++ contexts .first requests, h.Shares [] s)
    (hsecond : ∀ s ∈ qInitial :: (q.slots ++ contexts .second requests), h.Shares [] s)
    -- What the first program starts from is copied, and so only what is in it has to be its own.
    (hseparate : Separate h
      (h.Leads (initialSlots h pInitial ++ (p.slots ++ contexts .first requests)))
      (h.Leads (qInitial :: (q.slots ++ contexts .second requests)))) :
    ∀ side, (Pair.of h₂ m k).Undisturbed requests side :=
  undisturbed_of_confined requests hp hq p.confined_factory q.confined_factory hh hfirst hsecond
    hseparate

def shelf : Heap :=
  let (h, _) := Heap.empty.alloc (.mapping [(.text "count", .scalar (.int 0))])
  let (h, _) := h.alloc (.sequence [])
  (h.alloc (.sequence [])).1

/-- The first scene counts. The second one stores a new user twice and fails after that. -/
def counting : Program where
  setup := [.connect "root" .null]
  scenes := [
    [.add "root" (.text "count") (.scalar (.int 1)),
      .emit "root" (.text "count") (.scalar .null)],
    [.build "root" (.text "user") (.map [(.text "name", .text "Ada")]),
      .copy "root" (.text "user") "root" (.text "owner"), .storeContext "nowhere" (.text "log")]]

private theorem shelf_apart : shelf.Apart [] := by
  have hcount := Apart.empty.alloc (o := .mapping [(.text "count", .scalar (.int 0))])
    (by simp [Object.slots, Shares])
  have hfirst := hcount.apart.alloc (o := .sequence []) (by simp [Object.slots])
  exact (hfirst.apart.alloc (o := .sequence []) (by simp [Object.slots])).apart

/-- One program mounted twice from one mapping without parts, and asked for scenes in turns, among
them some that there are not and some that fail. -/
theorem programs_isolated_counting :
    let requests : List Request :=
      [⟨.first, .int 1, .ref 1⟩, ⟨.second, .int 2, .ref 2⟩, ⟨.first, .int 7, .ref 1⟩,
        ⟨.second, .int 1, .ref 2⟩, ⟨.first, .int 2, .ref 1⟩, ⟨.first, .int 1, .ref 1⟩]
    let root : Value := .text "root"
    let m : Mounted := ⟨counting.scenes, ⟨.text "root", 4⟩, .null, [("root", ⟨[root], 3⟩)]⟩
    let k : Mounted := ⟨counting.scenes, ⟨.text "root", 6⟩, .null, [("root", ⟨[root], 5⟩)]⟩
    Separate shelf
        (shelf.Leads (initialSlots shelf (.ref 0) ++ (counting.slots ++ contexts .first requests)))
        (shelf.Leads (.ref 0 :: (counting.slots ++ contexts .second requests))) ∧
      ∃ h₁ h₂, mount shelf counting (.ref 0) .null root = (h₁, .ok m) ∧
        mount h₁ counting (.ref 0) .null root = (h₂, .ok k) ∧
        ∀ side, (Pair.of h₂ m k).Undisturbed requests side := by
  intro requests root m k
  let h₁ := (mount shelf counting (.ref 0) .null root).1
  let h₂ := (mount h₁ counting (.ref 0) .null root).1
  have hm : mount shelf counting (.ref 0) .null root = (h₁, .ok m) := rfl
  have hk : mount h₁ counting (.ref 0) .null root = (h₂, .ok k) := rfl
  have hfirst : ∀ s ∈ counting.slots ++ contexts .first requests, shelf.Shares [] s := by
    decide
  have hsecond : ∀ s ∈ .ref 0 :: (counting.slots ++ contexts .second requests),
      shelf.Shares [] s := by
    decide
  have hseparate : Separate shelf
      (shelf.Leads (initialSlots shelf (.ref 0) ++ (counting.slots ++ contexts .first requests)))
      (shelf.Leads (.ref 0 :: (counting.slots ++ contexts .second requests))) := by
    intro id hledFirst hledSecond
    have hone : id ∈ [1] := hledFirst.mem_of_all rfl rfl
    have htwo : id ∈ [0, 2] := hledSecond.mem_of_all rfl rfl
    simp only [List.mem_cons, List.not_mem_nil, or_false] at hone htwo
    omega
  exact ⟨hseparate, h₁, h₂, hm, hk,
    programs_isolated requests hm hk shelf_apart hfirst hsecond hseparate⟩

end SceneBook.Mount
