import SceneBook.Proofs.Collate.ManifestText
import SceneBook.Proofs.Command.Delivery

/-!
# Manifests and files

A run that writes artifacts into a folder and lists them in a manifest lists what is in the folder.
The same artifact may be written more than once, but two artifacts of one name never differ. So the
bytes that a file ends up with are those that the digest beside its name was made of.
-/

namespace SceneBook

/-- The bytes that a run leaves at a path, which are those of the text that it writes there last. -/
def Outcome.bytesAt (o : Outcome) (p : Path) : Option (List Nat) :=
  (o.written.reverse.lookup p).bind Text.utf8?

private theorem Path.child_injective (p : Path) : Function.Injective p.child := by
  intro name name' h
  simpa [child] using h

private theorem lookup_of_unique {α β : Type} [DecidableEq α] {l : List (α × β)} {k : α} {v : β}
    (hmem : (k, v) ∈ l) (hunique : ∀ v', (k, v') ∈ l → v' = v) : l.lookup k = some v := by
  cases hlookup : l.lookup k with
  | none =>
    have hnone := List.lookup_eq_none_iff.mp hlookup (k, v) hmem
    simp at hnone
  | some v' =>
    obtain ⟨before, after, rfl, -⟩ := List.lookup_eq_some_iff.mp hlookup
    rw [hunique v' (by simp)]

namespace Artifact

private theorem name_toEntries (withCode : Bool) (a : Artifact) :
    (a.toEntries withCode).field? "name" = some (.text a.name) := rfl

private theorem digest_toEntries (withCode : Bool) (a : Artifact) :
    (a.toEntries withCode).field? "digest" = some (.text a.digest) := rfl

end Artifact

private theorem Outcome.bytesAt_file {o : Outcome} {folder : Path} {as : List Artifact}
    (hwritten : o.written = as.map (Artifact.file folder))
    (hunique : ∀ a ∈ as, ∀ b ∈ as, a.name = b.name → a = b) {a : Artifact} (ha : a ∈ as)
    (hcode : a.code.isStorable = true) :
    o.bytesAt (folder.child a.name) = some a.code.bytes := by
  -- Whatever else is written under the name is the same artifact again.
  have hlookup : o.written.reverse.lookup (folder.child a.name) = some a.code := by
    rw [hwritten]
    apply lookup_of_unique
    · rw [List.mem_reverse]
      exact List.mem_map_of_mem ha
    · intro code hmem
      obtain ⟨b, hb, hfile⟩ := List.mem_map.mp (List.mem_reverse.mp hmem)
      obtain ⟨hpath, rfl⟩ := Prod.ext_iff.mp hfile
      rw [hunique a ha b hb (folder.child_injective hpath).symm]
      rfl
  rw [bytesAt, hlookup]
  simp [Text.utf8?_eq, hcode]

namespace Run

/-- A delivery with a manifest has written all artifacts, and puts their manifest out. -/
theorem deliver_eq_ok {w : World} {request : CollateRequest} {out output : Text}
    {as : List Artifact} (hout : request.out = some out) (hjson : request.json = true)
    (h : (deliver w request as).result = .ok output) :
    (deliver w request as).written = as.map (Artifact.file (Path.ofText out)) ∧
      (∀ a ∈ as, a.code.isStorable = true) ∧
      ∃ text, Artifact.manifest? .pretty false as = some text ∧ output = line text := by
  simp only [deliver, hout, hjson, if_true] at h ⊢
  split at h
  · cases h
  · obtain ⟨t, hok, hmanifest⟩ := bind_eq_ok_iff.mp h
    obtain ⟨hwritten, hcodes⟩ := writeEach_eq_ok hok
    refine ⟨hwritten, hcodes, ?_⟩
    rw [manifest] at hmanifest
    cases htext : Artifact.manifest? .pretty false as with
    | none => simp [htext] at hmanifest
    | some text =>
      rw [htext] at hmanifest
      exact ⟨text, rfl, (Except.ok.inj hmanifest).symm⟩

/-- A collation into a folder that succeeds and puts out a manifest lists in it what it has made.
Each entry that is read from the output names a file in the folder with the bytes that its digest is
made of, each file that is written has an entry, and entries of one name are equal. -/
theorem manifest_describes_files [Limits] {w : World} {arguments : List Text} {i : Invocation}
    {request : CollateRequest} {out : Text} (harguments : Invocation.ofArguments arguments = .ok i)
    (hcommand : i.command = some (.collate request)) (hout : request.out = some out)
    (hjson : request.json = true) (hexit : (run w arguments).exit = .returned 0) :
    let o := run w arguments
    let folder := Path.ofText out
    ∃ s b as text entries, Collates w arguments request s b ∧
      (Registry.web s).made request.languages b = .ok as ∧
      Artifact.manifest? .pretty false as = some text ∧ o.output = line text ∧
      JsonReading.listing? o.output = some entries ∧
      entries = as.map (Artifact.toEntries false) ∧
      (∀ e ∈ entries, ∃ name bytes, e.field? "name" = some (.text name) ∧
        Path.IsFileName name ∧ o.bytesAt (folder.child name) = some bytes ∧
        e.field? "digest" = some (.text (Fingerprint.digits (Fingerprint.ofBytes bytes)))) ∧
      (∀ file ∈ o.written, ∃ e ∈ entries, ∃ name, e.field? "name" = some (.text name) ∧
        file.1 = folder.child name) ∧
      ∀ e ∈ entries, ∀ e' ∈ entries, e.field? "name" = e'.field? "name" → e = e' := by
  intro o folder
  obtain ⟨s, b, hcollates⟩ := exists_collates harguments hcommand hexit
  cases hmade : (Registry.web s).made request.languages b with
  | error f =>
    have hshows := hcollates.shows_error hmade
    obtain ⟨output, houtput⟩ := exitOf_eq_zero_iff.mp (hshows.exit.symm.trans hexit)
    cases houtput
  | ok as =>
    have hshows := hcollates.shows_deliver hmade
    obtain ⟨output, houtput⟩ := exitOf_eq_zero_iff.mp (hshows.exit.symm.trans hexit)
    obtain ⟨hfiles, hcodes, text, htext, rfl⟩ := deliver_eq_ok hout hjson houtput
    have hwritten : o.written = as.map (Artifact.file folder) := hshows.written.trans hfiles
    have hunique := Registry.eq_of_name_eq_of_made hmade
    have hlisting : JsonReading.listing? o.output = some (as.map (Artifact.toEntries false)) := by
      rw [hshows.output _ houtput]
      exact Artifact.listing?_manifest Artifact.Layout.isJson_pretty htext (by decide)
    refine ⟨s, b, as, text, _, hcollates, hmade, htext, hshows.output _ houtput, hlisting, rfl,
      ?_, ?_, ?_⟩
    · intro e he
      obtain ⟨a, ha, rfl⟩ := List.mem_map.mp he
      exact ⟨a.name, a.code.bytes, a.name_toEntries false,
        Registry.isFileName_of_made hmade a ha,
        Outcome.bytesAt_file hwritten hunique ha (hcodes a ha), a.digest_toEntries false⟩
    · intro file hfile
      rw [hwritten] at hfile
      obtain ⟨a, ha, rfl⟩ := List.mem_map.mp hfile
      exact ⟨_, List.mem_map_of_mem ha, a.name, a.name_toEntries false, rfl⟩
    · intro e he e' he' hname
      obtain ⟨x, hx, rfl⟩ := List.mem_map.mp he
      obtain ⟨y, hy, rfl⟩ := List.mem_map.mp he'
      rw [x.name_toEntries, y.name_toEntries] at hname
      have hsame : x.name = y.name := by simpa using hname
      rw [hunique x hx y hy hsame]

/-- The shared shapes are made, written and listed twice. -/
theorem manifest_describes_files_repeated :
    let request := halfStyleRequest [.text "svg", .text "svg"] true
    let arguments : List Text :=
      ["collate", "book.yaml", "-l", "svg", "--json", "-l", "svg", "-o", "out"]
    let o := run (shelf halfStyle) arguments
    let file := (Path.ofText "out").child "defs.svg"
    Invocation.ofArguments arguments = .ok ⟨none, false, some (.collate request)⟩ ∧
    o.exit = .returned 0 ∧ o.written.map Prod.fst = [file, file] ∧
    ∃ (e : Entries Value) (bytes : List Nat), JsonReading.listing? o.output = some [e, e] ∧
      e.field? "name" = some (.text "defs.svg") ∧
      o.bytesAt file = some bytes ∧
      e.field? "digest" = some (.text (Fingerprint.digits (Fingerprint.ofBytes bytes))) := by
  intro request arguments o file
  have harguments : Invocation.ofArguments arguments =
      .ok ⟨none, false, some (.collate request)⟩ := by
    rfl
  have hcollates : Collates (shelf halfStyle) arguments request default halfStyleBook :=
    collates_halfStyle harguments
  have hmade : (Registry.web default).made request.languages halfStyleBook =
      .ok [noShapes, noShapes] := by
    rfl
  have hdeliverable : ∀ a ∈ [noShapes, noShapes], a.IsDeliverable request.json := by
    simpa using isDeliverable_noShapes request.json
  obtain ⟨hwritten, ⟨hexit, -⟩ | ⟨-, hnot⟩⟩ := hcollates.exit_of_storable hmade rfl
    (receives_halfStyle (by decide)) fun a ha => (hdeliverable a ha).1
  · obtain ⟨s, b, as, text, entries, hmine, has, -, -, hlisting, rfl, hentries, -⟩ :=
      manifest_describes_files harguments rfl rfl rfl hexit
    obtain ⟨rfl, rfl⟩ := hcollates.unique hmine
    cases hmade.symm.trans has
    obtain ⟨name, bytes, hname, -, hbytes, hdigest⟩ := hentries _ List.mem_cons_self
    obtain rfl : name = Artifact.shapesName := by cases hname; rfl
    refine
      ⟨harguments, hexit, ?_, noShapes.toEntries false, bytes, hlisting, hname, hbytes, hdigest⟩
    rw [hwritten]
    rfl
  · exact absurd hdeliverable hnot

end Run

end SceneBook
