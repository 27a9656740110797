import SceneBook.Proofs.Mount.Scripts
import Mathlib.Data.List.Basic

/-!
# Calls of scenes

A mounted program is called with values of all kinds in the place of a number. It runs the scene of
that number, if there is one, whatever this does, and keeps what it has done even if it fails. All
other calls are refused and leave no trace, so that a run of calls does the same without them. What
is refused is reported, unless it cannot be written into the message.
-/

namespace SceneBook

/-- The whole number that a value is; truth values and fractions are none. -/
def Value.int? : Value → Option Int
  | .scalar (.int i) => some i
  | _ => none

private theorem Value.int?_eq_some_iff {v : Value} {i : Int} : v.int? = some i ↔ v = .int i := by
  cases v with
  | scalar s => cases s <;> simp [int?]
  | _ => simp [int?]

namespace Mount

/-- Whether a value is the number of one of so many scenes. -/
def IsSceneNumber (count : Nat) (number : Value) : Prop :=
  ∃ i : Int, number = .int i ∧ 1 ≤ i ∧ i ≤ count

instance (count : Nat) (number : Value) : Decidable (IsSceneNumber count number) :=
  decidable_of_iff (∃ i ∈ number.int?, 1 ≤ i ∧ i ≤ count) (by
    simp only [IsSceneNumber, Option.mem_def, Value.int?_eq_some_iff])

variable {α : Type} {scenes : List α} {number : Value}

private theorem dispatch_of_isSceneNumber [Limits] (h : IsSceneNumber scenes.length number) :
    ∃ (i : Int) (scene : α), number = .int i ∧ scenes[(i - 1).toNat]? = some scene ∧
      dispatch scenes number = .ok scene := by
  obtain ⟨i, rfl, hlow, hhigh⟩ := h
  have hin : (i - 1).toNat < scenes.length := by omega
  refine ⟨i, scenes[(i - 1).toNat], rfl, List.getElem?_eq_getElem hin, ?_⟩
  simp only [dispatch, if_pos hlow, List.getElem?_eq_getElem hin]

/-- What comes of asking for a scene that there is not. -/
def refusal (number : Value) (count : Nat) : Report := .sceneOutOfRange number (.int count)

private theorem dispatch_of_not_isSceneNumber [Limits] (h : ¬ IsSceneNumber scenes.length number) :
    dispatch scenes number = .error (refusal number scenes.length).failure := by
  unfold dispatch
  split
  · next i =>
    have hnone : (if 1 ≤ i then scenes[(i - 1).toNat]? else none) = none := by
      split
      · next hlow =>
        refine List.getElem?_eq_none (Nat.le_of_not_lt fun hin => h ⟨i, rfl, hlow, ?_⟩)
        omega
      · rfl
    rw [hnone]
    rfl
  · rfl

/-- A scene that is asked for by a value of any kind, in a context that is there from the start. -/
structure Call where
  number : Value
  context : Slot

/-- A mounted program and the heap that its store and the contexts are in. -/
structure Stage (α : Type) where
  heap : Heap
  program : Bound α

namespace Stage

variable [Limits] [Playable α]

def call (x : Stage α) (c : Call) : Stage α × Except Failure Unit :=
  let (h, m, answer) := x.program.run x.heap c.number c.context
  (⟨h, m⟩, answer)

def run (x : Stage α) (calls : List Call) : Stage α := calls.foldl (fun x c => (x.call c).1) x

def log (x : Stage α) : List Call → List (Call × Except Failure Unit)
  | [] => []
  | c :: rest => (c, (x.call c).2) :: log (x.call c).1 rest

/-- Whether a call has the scene at its place among some scenes played once, in its own context, and
leaves and answers what the scene does. -/
def Performs (scenes : List α) (x : Stage α) (c : Call) : Prop :=
  ∃ (i : Int) (scene : α), c.number = .int i ∧ scenes[(i - 1).toNat]? = some scene ∧
    let (w, answer) := Playable.play scene x.program.store c.context ⟨x.heap, x.program.nodes⟩
    x.call c = (⟨w.heap, { x.program with nodes := w.nodes }⟩, answer)

variable {x : Stage α} {c : Call}

private theorem call_of_not_isSceneNumber (h : ¬ IsSceneNumber x.program.scenes.length c.number) :
    x.call c = (x, .error (refusal c.number x.program.scenes.length).failure) := by
  simp only [call, Bound.run, dispatch_of_not_isSceneNumber h]

private theorem performs_of_isSceneNumber (h : IsSceneNumber x.program.scenes.length c.number) :
    x.Performs x.program.scenes c := by
  obtain ⟨i, scene, hi, hscene, hdispatch⟩ := dispatch_of_isSceneNumber h
  refine ⟨i, scene, hi, hscene, ?_⟩
  simp only [call, Bound.run, hdispatch]

@[simp] theorem scenes_call (x : Stage α) (c : Call) :
    (x.call c).1.program.scenes = x.program.scenes :=
  Bound.scenes_run x.heap x.program c.number c.context

private theorem scenes_run (x : Stage α) (calls : List Call) :
    (x.run calls).program.scenes = x.program.scenes := by
  induction calls generalizing x with
  | nil => rfl
  | cons c rest ih => exact (ih (x.call c).1).trans (scenes_call x c)

/-- What is refused does not count: the same comes of a run without it. -/
theorem run_accepted {n : Nat} (hn : x.program.scenes.length = n) (calls : List Call) :
    let accepted := calls.filter fun c => IsSceneNumber n c.number
    x.run accepted = x.run calls ∧
      x.log accepted = (x.log calls).filter fun entry => IsSceneNumber n entry.1.number := by
  induction calls generalizing x with
  | nil => exact ⟨rfl, rfl⟩
  | cons c rest ih =>
    obtain ⟨hrun, hlog⟩ := ih (x := (x.call c).1) (by rw [scenes_call, hn])
    by_cases hc : IsSceneNumber n c.number
    · simp only [List.filter_cons, hc, decide_true, if_true, log]
      exact ⟨hrun, congrArg _ hlog⟩
    -- The rest of the run starts where the refused call has left off, which is where it was made.
    · have hsame : (x.call c).1 = x :=
        congrArg Prod.fst (call_of_not_isSceneNumber (by rwa [hn]))
      rw [hsame] at hrun hlog
      simp only [List.filter_cons, hc, decide_false, log, hsame]
      exact ⟨hrun.trans (congrArg (Stage.run · rest) hsame.symm), hlog⟩

/-- Whatever a mounted program has been called with before and whatever its store holds, a call with
the number of a scene has that scene played, and any other value is refused and changes nothing. The
report of it carries the value and the number of scenes, if both can be written into its message. A
run without the refused calls ends the same and has the same answers to the others. -/
theorem calls_decided {h h' : Heap} {factory : Factory α} {initial : Slot}
    {mountpoint rootKey : Value} {m : Bound α}
    (hm : bind h factory initial mountpoint rootKey = (h', .ok m)) :
    ∃ w scenes, factory m.store w = (⟨h', m.nodes⟩, .ok scenes) ∧
      ∀ (heap : Heap) (before : List Call),
        let n := scenes.length
        let x := Stage.run ⟨heap, m⟩ before
        x.program.sceneCount = n ∧
        (∀ c, if IsSceneNumber n c.number then x.Performs scenes c
          else
            ((refusal c.number n).obstacle? = none →
              x.call c = (x, .error (.report (refusal c.number n)))) ∧
            ∀ e, (refusal c.number n).obstacle? = some e → x.call c = (x, .error (.misuse e))) ∧
        ∀ calls, let accepted := calls.filter fun c => IsSceneNumber n c.number
          x.run accepted = x.run calls ∧
            x.log accepted = (x.log calls).filter fun entry => IsSceneNumber n entry.1.number := by
  obtain ⟨w, hmade⟩ := handed_over hm
  refine ⟨w, m.scenes, hmade, fun heap before => ?_⟩
  intro n x
  have hscenes : x.program.scenes = m.scenes := scenes_run ⟨heap, m⟩ before
  have hn : x.program.scenes.length = n := congrArg List.length hscenes
  refine ⟨hn, fun c => ?_, run_accepted hn⟩
  split
  · next hc =>
    rw [← hn] at hc
    exact hscenes ▸ performs_of_isSceneNumber hc
  · next hc =>
    rw [← hn] at hc
    have hcall := call_of_not_isSceneNumber hc
    rw [hn, Report.failure] at hcall
    constructor
    · intro hwritten
      rw [hcall, hwritten]
    · intro e hobstacle
      rw [hcall, hobstacle]

end Stage

/-- The first scene counts visits and tells the count to its context. The second one leaves a note
and fails after that. -/
def visits : Program where
  setup := [.connect "root" .null]
  scenes := [
    [.add "root" (.text "visits") (.scalar (.int 1)),
      .emit "root" (.text "visits") (.scalar .null)],
    [.build "root" (.text "note") (.text "here"), .push "root" (.text "nowhere") .null]]

/-- The program on a store of its own, beside a list. -/
def mountedVisits : Heap × Except Failure Mounted :=
  mount (Heap.empty.alloc (.sequence [])).1 visits (.scalar .null) .null (.text "root")

def boundVisits : Mounted :=
  ⟨visits.scenes, ⟨.text "root", 2⟩, .null, [("root", ⟨[.text "root"], 1⟩)]⟩

namespace Stage

/-- Calls with the numbers of both scenes among values that only look like numbers of scenes. -/
theorem calls_decided_visits :
    let x : Stage Script := ⟨mountedVisits.1, boundVisits⟩
    let calls : List Call :=
      [.bool true, .int 1, .scalar (.float (.ofInt 1)), .int 2, .text "1", .int 0, .int 3,
        .int (-1), .null, .int 1].map fun number => ⟨number, .ref 0⟩
    let accepted : List Call := [.int 1, .int 2, .int 1].map fun number => ⟨number, .ref 0⟩
    mountedVisits = (mountedVisits.1, .ok boundVisits) ∧ x.run accepted = x.run calls ∧
    x.call ⟨.bool true, .ref 0⟩ =
      (x, .error (.report (.sceneOutOfRange (.bool true) (.int 2)))) ∧
    x.Performs visits.scenes ⟨.int 2, .ref 0⟩ := by
  intro x calls accepted
  have hm : bind (Heap.empty.alloc (.sequence [])).1 visits.factory (.scalar .null) .null
      (.text "root") = (mountedVisits.1, .ok boundVisits) := rfl
  obtain ⟨w, scenes, hmade, hdecided⟩ := calls_decided hm
  have hscenes : (visits.factory boundVisits.store w).2 = .ok scenes := congrArg Prod.snd hmade
  obtain ⟨-, -, rfl⟩ := map_eq_ok_iff.mp hscenes
  obtain ⟨-, hcall, hrun⟩ := hdecided mountedVisits.1 []
  have htrue := hcall ⟨.bool true, .ref 0⟩
  have htwo := hcall ⟨.int 2, .ref 0⟩
  rw [if_neg (by decide)] at htrue
  rw [if_pos (by decide)] at htwo
  exact ⟨hm, (hrun calls).1, htrue.1 (by decide +kernel), htwo⟩

/-- The first number that has more digits than are written. -/
def longNumber : Scalar := .int (Nat.pow 10 4300)

/-- It is no number of a scene, but it is not reported. -/
theorem long_number_unreported :
    let x : Stage Script := ⟨mountedVisits.1, boundVisits⟩
    mountedVisits.2 = .ok boundVisits ∧
    ¬ IsSceneNumber x.program.scenes.length (.scalar longNumber) ∧
    x.call ⟨.scalar longNumber, .ref 0⟩ = (x, .error (.misuse .tooLong)) := by
  intro x
  have hlong : longNumber.isWritable = false := by decide +kernel
  have hrange : ¬ IsSceneNumber 2 (.scalar longNumber) := by decide +kernel
  have hobstacle : (refusal (.scalar longNumber) 2).obstacle? = some .tooLong := by
    simp [Report.obstacle?, refusal, Report.worded, Value.unshown?_scalar, hlong]
  have hcall : x.call ⟨.scalar longNumber, .ref 0⟩ =
      (x, .error (refusal (.scalar longNumber) 2).failure) := call_of_not_isSceneNumber hrange
  rw [Report.failure, hobstacle] at hcall
  exact ⟨rfl, hrange, hcall⟩

end Stage

inductive Script.Steps [Limits] (store : Store) (context : Slot) :
    Workspace → Script → Workspace → Prop
  | done (w : Workspace) : Steps store context w [] w
  | step {w w₁ w₂ : Workspace} {step : Step} {rest : Script}
    (hstep : step.run store context w = .ok w₁) (hrest : Steps store context w₁ rest w₂) :
    Steps store context w (step :: rest) w₂

/-- How a script ends: after its last step, or where a step fails after those that succeeded. -/
inductive Script.Ends [Limits] (store : Store) (context : Slot) (w : Workspace) :
    Script → Workspace → Except Failure Unit → Prop
  | finished {script : Script} {w' : Workspace} (h : Steps store context w script w') :
    Ends store context w script w' (.ok ())
  | failed {done rest : Script} {step : Step} {w' : Workspace} {f : Failure}
    (h : Steps store context w done w') (hfail : step.run store context w' = .error f) :
    Ends store context w (done ++ step :: rest) w' (.error f)

section

variable {store : Store} {context : Slot} {w w₁ : Workspace} {step : Step} {script : Script}

private theorem Script.Ends.cons [Limits] {result : Except Failure Unit} {w' : Workspace}
    (hstep : step.run store context w = .ok w₁) (h : Ends store context w₁ script w' result) :
    Ends store context w (step :: script) w' result := by
  cases h with
  | finished h => exact .finished (.step hstep h)
  | failed h hfail => exact .failed (.step hstep h) hfail

theorem Script.ends_run [Limits] (store : Store) (context : Slot) (w : Workspace)
    (script : Script) :
    Ends store context w script (Script.run store context w script).1
      (Script.run store context w script).2 := by
  induction script generalizing w with
  | nil => exact .finished (.done w)
  | cons step rest ih =>
    cases hstep : step.run store context w with
    | ok w' =>
      rw [Script.run, hstep]
      exact (ih w').cons hstep
    | error f =>
      rw [Script.run, hstep]
      have hfirst : Ends store context w ([] ++ step :: rest) w (.error f) :=
        .failed (.done w) hstep
      exact hfirst

end

/-- A failure of a step, which loses its way in the store or misuses what it finds. -/
inductive StepFailure : Failure → Prop
  | lost (path : List Value) (segment : Value) : StepFailure (.report (.storePath path segment))
  | misuse (m : Misuse) : StepFailure (.misuse m)

private theorem stepFailure_lost [Limits] (path : List Value) (segment : Value) :
    StepFailure (Report.storePath path segment).failure := by
  unfold Report.failure
  split
  · exact .lost path segment
  · exact .misuse _

def FailsAsStep (x : Except Failure α) : Prop := ∀ f, x = .error f → StepFailure f

namespace FailsAsStep

variable {β : Type}

private theorem ok (a : α) : FailsAsStep (.ok a) := nofun

private theorem error {f : Failure} (hf : StepFailure f) :
    FailsAsStep (.error f : Except Failure α) := by
  rintro _ ⟨⟩
  exact hf

private theorem misuse (x : Except Misuse α) : FailsAsStep (x.mapError .misuse) := by
  intro f hf
  obtain ⟨m, -, rfl⟩ := mapError_eq_error_iff.mp hf
  exact .misuse m

private theorem bind {x : Except Failure α} {g : α → Except Failure β} (hx : FailsAsStep x)
    (hg : ∀ a, FailsAsStep (g a)) : FailsAsStep (x >>= g) := by
  intro f hf
  rcases bind_eq_error_iff.mp hf with hf | ⟨a, -, hf⟩
  · exact hx f hf
  · exact hg a f hf

end FailsAsStep

section

variable {w : Workspace}

private theorem failsAsStep_follow [Limits] (h : Heap) (path : List Value) (at' : Slot)
    (segments : List Value) :
    FailsAsStep (Store.follow h path at' segments) := by
  induction segments generalizing at' with
  | nil => exact .ok at'
  | cons segment rest ih =>
    rw [Store.follow]
    split
    · exact .error (stepFailure_lost path segment)
    · split
      · exact .error (.misuse _)
      · exact .error (stepFailure_lost path segment)
      · next next' _ => exact ih next'

private theorem failsAsStep_connect [Limits] (h : Heap) (s : Store) (path : Value) :
    FailsAsStep (s.connect h path) := by
  have hwalk (segments : List Value) : FailsAsStep (Store.walk h segments (.ref s.top)) := by
    refine (failsAsStep_follow h segments _ _).bind fun last => ?_
    split
    · exact .error (.misuse .tooDeep)
    · split
      · exact .ok _
      · exact .error (stepFailure_lost segments _)
  unfold Store.connect
  split
  · exact (hwalk [.scalar s.rootKey]).bind fun target => .ok _
  · exact (FailsAsStep.misuse _).bind fun segments => (hwalk segments).bind fun target => .ok _

private theorem failsAsStep_node (w : Workspace) (name : Text) : FailsAsStep (w.node name) := by
  unfold Workspace.node
  split
  · exact .ok _
  · exact .error (.misuse .noSuchNode)

private theorem failsAsStep_contextList (w : Workspace) (context : Slot) :
    FailsAsStep (w.contextList context) := by
  unfold Workspace.contextList
  split
  · exact .error (.misuse .noSuchPart)
  · split
    · exact .ok _
    · exact .error (.misuse .noSuchPart)

private theorem Step.failsAsStep_run [Limits] (store : Store) (context : Slot) (w : Workspace)
    (step : Step) :
    FailsAsStep (step.run store context w) := by
  have hnode (name : Text) {g : Node → Except Failure Workspace} (hg : ∀ n, FailsAsStep (g n)) :
      FailsAsStep (w.node name >>= g) := (failsAsStep_node w name).bind hg
  cases step with
  | connect name path => exact (failsAsStep_connect w.heap store path).bind fun n => .ok _
  | add name key amount =>
    refine hnode name fun n => .bind (.misuse _) fun s => .bind (.misuse _) fun ⟨h, total⟩ => ?_
    exact .bind (.misuse _) fun h => .ok _
  | set name key value => exact hnode name fun n => .misuse _
  | build name key value => exact hnode name fun n => .misuse _
  | copy source sourceKey name key =>
    refine hnode name fun n => hnode source fun origin => .bind (.misuse _) fun s => .misuse _
  | push name key value => exact hnode name fun n => .misuse _
  | storeContext name key => exact hnode name fun n => .misuse _
  | emit name key fallback =>
    refine hnode name fun n => (failsAsStep_contextList w context).bind fun ⟨id, items⟩ => ?_
    exact .bind (.misuse _) fun s => .ok _
  | emitCapability => exact (failsAsStep_contextList w context).bind fun ⟨id, items⟩ => .ok _

theorem Script.failsAsStep_run [Limits] (store : Store) (context : Slot) (w : Workspace)
    (script : Script) :
    FailsAsStep (Script.run store context w script).2 := by
  induction script generalizing w with
  | nil => exact .ok ()
  | cons step rest ih =>
    rw [Script.run]
    split
    · next w' _ => exact ih w'
    · next f hf => exact .error (step.failsAsStep_run store context w f hf)

end

end Mount

end SceneBook
