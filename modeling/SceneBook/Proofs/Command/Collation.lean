import SceneBook.Command.Run
import SceneBook.Proofs.Collate.Requests
import SceneBook.Proofs.Settings.Loading

/-!
# Runs that collate

A run that collates first makes all artifacts and then delivers them. What it makes is told by the
registry, the tags that are wanted and the workbook. What it writes is told by the artifacts, up to
the first that cannot be stored.
-/

namespace SceneBook

namespace Invocation

open Command

private theorem command_of_finish {l : Line} {command : Option Command} {leftover : List Text}
    {i : Invocation} (h : finish l command leftover = .ok i) : i.command = command := by
  unfold finish at h
  split at h
  · cases h
    rfl
  · cases h

private theorem exists_line {arguments : List Text} {i : Invocation} {c : Command}
    (h : ofArguments arguments = .ok i) (hc : i.command = some c) :
    ∃ form l, ofLine form l = some c := by
  obtain ⟨l, -, h⟩ := bind_eq_ok_iff.mp h
  split at h
  · rw [command_of_finish h] at hc
    cases hc
  · next name rest _ =>
    split at h
    · cases h
    · next form _ =>
      obtain ⟨sub, -, h⟩ := bind_eq_ok_iff.mp h
      exact ⟨form, sub, (command_of_finish h).symm.trans hc⟩

/-- A tag on a line is a text, or the empty list where a switch has no value. -/
theorem mem_languages {arguments : List Text} {i : Invocation} {request : CollateRequest}
    (h : ofArguments arguments = .ok i) (hc : i.command = some (.collate request)) {t : Value}
    (ht : t ∈ request.languages) : t.text?.isSome ∨ t = .list [] := by
  obtain ⟨form, l, hline⟩ := exists_line h hc
  have htags : ∃ given : List (Option Text), request.languages = given.map tagValue := by
    cases form with
    | program | languages => cases hline
    | classify =>
      simp only [ofLine] at hline
      generalize l.operands = operands at hline
      cases operands <;> cases hline
    | collate =>
      simp only [ofLine] at hline
      split at hline
      · cases hline
        exact ⟨_, rfl⟩
      · cases hline
  obtain ⟨given, hgiven⟩ := htags
  rw [hgiven] at ht
  obtain ⟨_ | tag, -, rfl⟩ := List.mem_map.mp ht
  · exact .inr rfl
  · exact .inl rfl

end Invocation

namespace Run

private theorem snd_collateEach [Limits] (r : Registry) (b : Workbook) (tags : List Value) :
    (collateEach r b tags).2 = (r.collateTags tags b).map fun found => found.flatMap Prod.snd := by
  induction tags with
  | nil => rfl
  | cons t rest ih =>
    rw [r.collateTags_cons, collateEach]
    cases r.getValue t with
    | error f => rfl
    | ok p =>
      simp only [bind, Except.bind]
      cases p.collate b with
      | error f => rfl
      | ok as =>
        simp only [ih]
        cases r.collateTags rest b <;> rfl

private theorem after_after (p : Performance) (later earlier : List Notice) :
    (p.after later).after earlier = p.after (earlier ++ later) := by
  simp [Performance.after]

def exitOf : Except Failure Text → Exit
  | .ok _ => .returned 0
  | .error (.misuse m) => .broken m
  | .error _ => .returned 1

theorem exitOf_eq_zero_iff {result : Except Failure Text} :
    exitOf result = .returned 0 ↔ ∃ output, result = .ok output := by
  cases result with
  | ok output => simp [exitOf]
  | error f => cases f <;> simp [exitOf]

section

variable (verbose : Bool) (p : Performance)

@[simp] theorem conclude_exit : (conclude verbose p).exit = exitOf p.result := by
  cases h : p.result with
  | ok output => simp [conclude, h, exitOf]
  | error f => cases f <;> simp [conclude, h, exitOf]

@[simp] theorem conclude_written : (conclude verbose p).written = p.written := by
  cases h : p.result with
  | ok output => simp [conclude, h]
  | error f => cases f <;> simp [conclude, h]

private theorem conclude_output {output : Text} (h : p.result = .ok output) :
    (conclude verbose p).output = output := by
  simp [conclude, h]

end

/-- The run has ended as a command that has done some things lets it end. -/
structure Shows (o : Outcome) (p : Performance) : Prop where
  exit : o.exit = exitOf p.result
  written : o.written = p.written
  output : ∀ t, p.result = .ok t → o.output = t

private theorem shows_conclude (verbose : Bool) (notices : List Notice) (p : Performance) :
    Shows (conclude verbose (p.after notices)) p where
  exit := conclude_exit verbose (p.after notices)
  written := conclude_written verbose (p.after notices)
  output _ ht := conclude_output verbose (p.after notices) ht

def deliverMade [Limits] (w : World) (r : Registry) (request : CollateRequest) (b : Workbook) :
    Performance :=
  match r.made request.languages b with
  | .error f => .ofResult (.error f)
  | .ok as => deliver w request as

def Loads (w : World) (request : CollateRequest) (b : Workbook) : Prop :=
  let path := Path.ofText request.workbook
  Workbook.load path.text (w.look path) = .ok b

private theorem collate_eq [Limits] (r : Registry) {w : World} {request : CollateRequest}
    {b : Workbook} (h : Loads w request b) :
    ∃ notices, collate w r request = (deliverMade w r request b).after notices := by
  have hload : Workbook.load (Path.ofText request.workbook).text
    (w.look (Path.ofText request.workbook)) = .ok b := h
  have hsnd : (collateEach r (r.classifyWorkbook false b)
      (if request.languages.isEmpty then r.known else request.languages)).2 =
        r.made request.languages b := snd_collateEach r _ _
  simp only [collate, hload, deliverMade, ← hsnd]
  cases collateEach r (r.classifyWorkbook false b)
    (if request.languages.isEmpty then r.known else request.languages) with
  | mk notices made =>
    cases made with
    | error f => exact ⟨notices, by simp [Performance.after, Performance.ofResult]⟩
    | ok as => exact ⟨notices, rfl⟩

/-- The arguments ask for a collation, and the settings and the workbook for it can be loaded. -/
structure Collates [Limits] (w : World) (arguments : List Text) (request : CollateRequest)
    (s : Settings)
    (b : Workbook) : Prop where
  asked : ∃ i, Invocation.ofArguments arguments = .ok i ∧ i.command = some (.collate request) ∧
    i.project ≠ some none ∧ (sourcesOf w i).load = .ok s
  loads : Loads w request b

namespace Collates

variable {w : World} {arguments : List Text} {request : CollateRequest} {s : Settings}
  {b : Workbook}

theorem unique [Limits] {s' : Settings} {b' : Workbook} (h : Collates w arguments request s b)
    (h' : Collates w arguments request s' b') : s = s' ∧ b = b' := by
  obtain ⟨i, harguments, -, -, hload⟩ := h.asked
  obtain ⟨i', harguments', -, -, hload'⟩ := h'.asked
  cases harguments.symm.trans harguments'
  exact ⟨Except.ok.inj (hload.symm.trans hload'), Except.ok.inj (h.loads.symm.trans h'.loads)⟩

/-- Only what stands for a switch without a value is looked up in vain without a report. -/
theorem tag_of_misuse [Limits] (h : Collates w arguments request s b) {t : Value}
    (ht : t ∈ request.languages) (htext : t.text? = none) :
    t.scalar? = none ∧ t.isKey = false := by
  obtain ⟨i, harguments, hcommand, -, -⟩ := h.asked
  rcases Invocation.mem_languages harguments hcommand ht with hsome | rfl
  · rw [htext] at hsome
    cases hsome
  · exact ⟨rfl, rfl⟩

theorem fault?_eq_none [Limits] (h : Collates w arguments request s b) : s.fault? = none := by
  obtain ⟨i, -, -, -, hload⟩ := h.asked
  exact Settings.Sources.fault?_of_load hload

private theorem shows [Limits] (h : Collates w arguments request s b) :
    Shows (run w arguments) (deliverMade w (Registry.web s) request b) := by
  obtain ⟨i, harguments, hcommand, hproject, hload⟩ := h.asked
  obtain ⟨notices, hcollate⟩ := collate_eq (Registry.web s) h.loads
  have hrun : run w arguments = conclude i.verbose
      (((deliverMade w (Registry.web s) request b).after notices).after
        (layerNotices [(sourcesOf w i).user, (sourcesOf w i).project])) := by
    simp only [run, harguments, hcommand, withSettings, if_neg hproject, hload, perform, hcollate]
  rw [hrun, after_after]
  exact shows_conclude i.verbose _ _

theorem shows_error [Limits] (h : Collates w arguments request s b) {f : Failure}
    (hmade : (Registry.web s).made request.languages b = .error f) :
    Shows (run w arguments) (.ofResult (.error f)) := by
  have hshows := h.shows
  rwa [deliverMade, hmade] at hshows

theorem shows_deliver [Limits] (h : Collates w arguments request s b) {as : List Artifact}
    (hmade : (Registry.web s).made request.languages b = .ok as) :
    Shows (run w arguments) (deliver w request as) := by
  have hshows := h.shows
  rwa [deliverMade, hmade] at hshows

end Collates

/-- A collation that returns zero has loaded its settings and its workbook. -/
theorem exists_collates [Limits] {w : World} {arguments : List Text} {i : Invocation}
    {request : CollateRequest} (harguments : Invocation.ofArguments arguments = .ok i)
    (hcommand : i.command = some (.collate request))
    (hexit : (run w arguments).exit = .returned 0) :
    ∃ s b, Collates w arguments request s b := by
  have hrun : run w arguments = conclude i.verbose (withSettings w i (.collate request)) := by
    simp only [run, harguments, hcommand]
  rw [hrun, conclude_exit, exitOf_eq_zero_iff] at hexit
  obtain ⟨output, houtput⟩ := hexit
  by_cases hproject : i.project = some none
  · simp [withSettings, hproject, Performance.ofResult] at houtput
  cases hload : (sourcesOf w i).load with
  | error f =>
    simp [withSettings, hproject, hload, Performance.after, Performance.ofResult] at houtput
  | ok s =>
    cases hbook : Workbook.load (Path.ofText request.workbook).text
        (w.look (Path.ofText request.workbook)) with
    | error f =>
      simp [withSettings, hproject, hload, perform, collate, hbook, Performance.after,
        Performance.ofResult] at houtput
    | ok b => exact ⟨s, b, ⟨i, harguments, hcommand, hproject, hload⟩, hbook⟩

end Run

def Artifact.file (folder : Path) (a : Artifact) : Path × Text := (folder.child a.name, a.code)

namespace Run

section

variable {w : World} {folder : Path} {as before : List Artifact}

/-- Artifacts that can be written come before what is written of the others. -/
theorem writeEach_append (rest : List Artifact)
    (hfree : ∀ a ∈ before, (w.look (folder.child a.name)).isFolder = false)
    (hcodes : ∀ a ∈ before, a.code.isStorable = true) :
    (writeEach w folder (before ++ rest)).written =
        before.map (Artifact.file folder) ++ (writeEach w folder rest).written ∧
      (writeEach w folder (before ++ rest)).result = (writeEach w folder rest).result := by
  induction before with
  | nil => exact ⟨rfl, rfl⟩
  | cons a before ih =>
    obtain ⟨hwritten, hresult⟩ := ih (fun b hb => hfree b (List.mem_cons_of_mem _ hb))
      (fun b hb => hcodes b (List.mem_cons_of_mem _ hb))
    have hfolder := hfree a List.mem_cons_self
    have hcode : a.code.any CodePoint.isSurrogate = false := by
      simpa [Text.isStorable] using hcodes a List.mem_cons_self
    simp [writeEach, hfolder, hcode, hwritten, hresult, Artifact.file]

/-- The first artifact that cannot be stored leaves an empty file behind. -/
theorem writeEach_unstorable {a : Artifact} (rest : List Artifact)
    (hfolder : (w.look (folder.child a.name)).isFolder = false)
    (hcode : a.code.isStorable = false) :
    (writeEach w folder (a :: rest)).written = [(folder.child a.name, [])] ∧
      (writeEach w folder (a :: rest)).result = .error (.misuse .notStorable) := by
  have hsurrogate : a.code.any CodePoint.isSurrogate = true := by
    simpa [Text.isStorable] using hcode
  simp only [writeEach, hfolder, hsurrogate, Bool.false_eq_true, if_false, if_true, and_self]

theorem writeEach_eq_ok {t : Text} (h : (writeEach w folder as).result = .ok t) :
    (writeEach w folder as).written = as.map (Artifact.file folder) ∧
      ∀ a ∈ as, a.code.isStorable = true := by
  induction as with
  | nil => exact ⟨rfl, by simp⟩
  | cons a rest ih =>
    cases hfolder : (w.look (folder.child a.name)).isFolder with
    | true => simp [writeEach, hfolder, Performance.ofResult] at h
    | false =>
      cases hcode : a.code.isStorable with
      | false =>
        rw [(writeEach_unstorable rest hfolder hcode).2] at h
        cases h
      | true =>
        obtain ⟨hwritten, hresult⟩ := writeEach_append rest (List.forall_mem_singleton.mpr hfolder)
          (List.forall_mem_singleton.mpr hcode)
        rw [List.singleton_append] at hwritten hresult
        rw [hresult] at h
        obtain ⟨hrest, hcodes⟩ := ih h
        rw [hrest] at hwritten
        exact ⟨hwritten, List.forall_mem_cons.mpr ⟨hcode, hcodes⟩⟩

end

end Run

end SceneBook
