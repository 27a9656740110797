import SceneBook.Proofs.Settings.Saving

/-!
# Calls of a manager

Settings are checked when they are made from the sources, but not when they are saved. So what a
manager hands out passes the check exactly if what was saved last does. Only a manager that has kept
nothing looks into the file that was saved, and it refuses what fails the check.
-/

namespace SceneBook.Settings.Manager

/-- A call of a manager. The files and the environment may be others at each load. -/
inductive Call
  | save (t : Settings)
  | load (s : Sources)

def step [Limits] (m : Manager) : Call → Manager
  | .save t => (m.save t).1
  | .load s => (m.load s).1

/-- The manager after some calls. -/
def run [Limits] (m : Manager) (calls : List Call) : Manager := calls.foldl step m

def Call.saved? : Call → Option Settings
  | .save t => some t
  | .load _ => none

/-- What the last call to save has given, if there was one. -/
def lastSaved (calls : List Call) : Option Settings := (calls.filterMap Call.saved?).getLast?

private theorem run_concat [Limits] (m : Manager) (calls : List Call) (c : Call) :
    m.run (calls ++ [c]) = (m.run calls).step c := List.foldl_concat ..

private theorem lastSaved_concat (calls : List Call) (c : Call) :
    lastSaved (calls ++ [c]) = c.saved?.or (lastSaved calls) := by
  rw [lastSaved, List.filterMap_append, List.getLast?_append]
  cases c <;> rfl

/-- What a manager keeps, by what was saved last: this, or else at most settings that pass their
check. -/
inductive Keeps : Option Settings → Manager → Prop
  | saved (t : Settings) (mark next : Nat) : Keeps (some t) ⟨some ⟨mark, t⟩, next⟩
  | loaded {t : Settings} (ht : t.fault? = none) (mark next : Nat) :
    Keeps none ⟨some ⟨mark, t⟩, next⟩
  | nothing (next : Nat) : Keeps none ⟨none, next⟩

namespace Keeps

variable {saved? : Option Settings} {m : Manager}

private theorem step [Limits] (h : Keeps saved? m) (c : Call) :
    Keeps (c.saved?.or saved?) (m.step c) := by
  cases c with
  | save t => exact .saved t _ _
  | load s =>
    cases h with
    | saved t mark next => exact .saved t mark next
    | loaded ht mark next => exact .loaded ht mark next
    | nothing next =>
      rw [Manager.step, Manager.load]
      cases hload : s.load with
      | ok t => exact .loaded (Sources.fault?_of_load hload) _ _
      | error f => exact .nothing next

private theorem run [Limits] (h : Keeps none m) (calls : List Call) :
    Keeps (lastSaved calls) (m.run calls) := by
  induction calls using List.reverseRecOn with
  | nil => exact h
  | append_singleton calls c ih =>
    rw [run_concat, lastSaved_concat]
    exact ih.step c

private theorem exists_load_eq [Limits] {t : Settings} (h : Keeps (some t) m) (s : Sources) :
    ∃ mark, (m.load s).2 = .ok ⟨mark, t⟩ := by
  cases h with
  | saved t mark next => exact ⟨mark, load_kept rfl s⟩

private theorem fault?_of_load [Limits] (h : Keeps none m) {s : Sources} {k : Kept}
    (hk : (m.load s).2 = .ok k) :
    k.settings.fault? = none := by
  cases h with
  | loaded ht mark next =>
    cases hk
    exact ht
  | nothing next =>
    rw [load_fresh rfl] at hk
    obtain ⟨t, ht, rfl⟩ := map_eq_ok_iff.mp hk
    exact Sources.fault?_of_load ht

end Keeps

/-- Sources are refused with a report, or loading them escapes. -/
def Refuses [Limits] (r : Except Failure Kept) (s : Sources) (user : Entries Value) : Prop :=
  (∃ message context, r = .error (.report (.config message context))) ∨
    ∃ project e, s.project.entries = .ok project ∧ s.Escapes user project e ∧ r = .error (.misuse e)

/-- A manager that has kept nothing refuses the file that settings are saved in which fail their
check. -/
theorem refuses_saved [Limits] {t : Settings} (hreads : Yaml.ReadsBack t.toDocument)
    (ht : t.fault? ≠ none)
    {s : Sources} {user : Entries Value} (hu : s.user.entries = .ok user)
    (hunset : ¬ AnySet s.environment fieldVariables) {fresh : Manager}
    (hfresh : fresh.kept = none) :
    ∃ content, Text.ofChars content = Yaml.write t.toDocument ∧
      Refuses (fresh.load (s.withProject content)).2 (s.withProject content) user := by
  obtain ⟨content, project, out, hcontent, hp, hsaved⟩ := exists_content hreads s
  refine ⟨content, hcontent, ?_⟩
  rw [load_fresh hfresh]
  rcases Sources.load_cases (s := s.withProject content) hu hp with
    ⟨t', ht', -⟩ | ⟨message, context, hreport⟩ | ⟨e, he, hescapes⟩
  · exact absurd (hsaved.fault?_of_load (s := s.withProject content) hu hp hunset ht') ht
  · rw [hreport]
    exact .inl ⟨message, context, rfl⟩
  · rw [he]
    exact .inr ⟨project, e, hp, hescapes, rfl⟩

/-- After any calls, whatever was saved and whatever the sources held: all that can be loaded passes
its check exactly if what was saved last does. What was saved last is loaded from any sources,
while a manager that has kept nothing refuses the file that it is saved in if it fails the check. -/
theorem run_checked_iff [Limits] (calls : List Call) :
    ((∀ s k, ((first.run calls).load s).2 = .ok k → k.settings.fault? = none) ↔
        ∀ t ∈ lastSaved calls, t.fault? = none) ∧
      ∀ t ∈ lastSaved calls, (∀ s, ∃ mark, ((first.run calls).load s).2 = .ok ⟨mark, t⟩) ∧
        (t.fault? ≠ none → Yaml.ReadsBack t.toDocument → ∀ (s : Sources) user,
          s.user.entries = .ok user → ¬ AnySet s.environment fieldVariables →
          ∃ content, Text.ofChars content = Yaml.write t.toDocument ∧
            Refuses ((first.run calls).another.load (s.withProject content)).2
              (s.withProject content) user) := by
  have hkeeps : Keeps (lastSaved calls) (first.run calls) := (Keeps.nothing 0).run calls
  cases hlast : lastSaved calls with
  | none =>
    rw [hlast] at hkeeps
    exact ⟨⟨fun _ => nofun, fun _ s k hk => hkeeps.fault?_of_load hk⟩, nofun⟩
  | some t =>
    rw [hlast] at hkeeps
    refine ⟨⟨?_, ?_⟩, ?_⟩
    · rintro hvalid _ ⟨⟩
      obtain ⟨mark, hload⟩ := hkeeps.exists_load_eq ⟨⟨[], .missing⟩, ⟨[], .missing⟩, []⟩
      exact hvalid _ _ hload
    · intro hvalid s k hk
      obtain ⟨mark, hload⟩ := hkeeps.exists_load_eq s
      cases hk.symm.trans hload
      exact hvalid t rfl
    · rintro _ ⟨⟩
      exact ⟨hkeeps.exists_load_eq, fun ht hreads s user hu hunset =>
        refuses_saved hreads ht hu hunset rfl⟩

/-- Settings whose scene element is the name of a plain element. -/
def plainElement : Settings := { default with sceneElement := .text "div" }

/-- The file that they are saved in. -/
def plainFile : List Char :=
  ("output:\n  announce_load: true\n  scene_element: div\n  store_root_key: root\n" ++
    "  svg_namespace: http://www.w3.org/2000/svg\n").toList

private theorem write_plainElement :
    Yaml.write plainElement.toDocument = Text.ofChars plainFile := by
  have hsorted : Yaml.sorted plainElement.toDocument =
      .map [(.text "output", .map [(.text "announce_load", .bool true),
        (.text "scene_element", .text "div"), (.text "store_root_key", .text defaultRootKey),
        (.text "svg_namespace", .text defaultNamespace)])] := by
    unfold plainElement
    cbv
  unfold Yaml.write
  rw [hsorted]
  decide +kernel

/-- They fail the check, and once they have been saved they are loaded all the same. -/
theorem plainElement_unchecked :
    let s : Sources := ⟨⟨"user.yaml", .missing⟩, ⟨"project.yaml", .file plainFile⟩, []⟩
    plainElement.fault? = some (.sceneElement (.text "div")) ∧
      (first.save plainElement).2 = Text.ofChars plainFile ∧
      ((first.run [.save plainElement]).load s).2 = .ok ⟨0, plainElement⟩ :=
  ⟨rfl, write_plainElement, rfl⟩

end SceneBook.Settings.Manager
