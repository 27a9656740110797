import SceneBook.Proofs.Import.GivenLines

/-!
# Accepted imports

A mapping spells an import if it has no other options than those of one, each with a value of its
kind. Reading gives the import that a value spells. It refuses every other value with a report that
carries it, unless a key of that value is too long to be written into the report. An import that has
been read is read again from the mapping of its options, and has the same line.
-/

namespace SceneBook

open ScriptLiteral
open Text (lineFeed)

/-- A key of the mapping is a whole number that is too long to be written. -/
def Value.HasLongKey (v : Value) : Prop :=
  ∃ es, v.map? = some es ∧ ∃ k ∈ es.keys, k.isWritable = false

/-- The value stands for an import. -/
def Value.IsImport (v : Value) : Prop := ∃ spec, ImportSpec.ofValue v = .ok spec

theorem Value.not_isImport_iff {v : Value} :
    ¬ v.IsImport ↔ ∃ f, ImportSpec.ofValue v = .error f := by
  unfold Value.IsImport
  cases ImportSpec.ofValue v <;> simp

namespace ImportSpec

variable {v : Value} {v? : Option Value} {es : Entries Value} {s : ImportSpec} {f : Failure}

def IsName (t : Text) : Prop := ∃ c ∈ t, c.isBlank = false

/-- The name under the option `as`, which may be left out or null. -/
inductive GivesLocalName : Option Value → Option Text → Prop
  | absent : GivesLocalName none none
  | null : GivesLocalName (some .null) none
  | name {a : Text} (ha : IsName a) : GivesLocalName (some (.text a)) (some a)

/-- What a value exposes: nothing, everything, or the names that it lists. -/
inductive Exposes : Value → Exposure → Prop
  | nothing : Exposes .null .nothing
  | everything : Exposes (.text "*") .everything
  | list {ns : List Text} (hne : ns ≠ []) (hns : ∀ n ∈ ns, IsName n) :
    Exposes (.list (ns.map .text)) (.names ns)
  | tuple {ns : List Text} (hne : ns ≠ []) (hns : ∀ n ∈ ns, IsName n) :
    Exposes (.tuple (ns.map .text)) (.names ns)

private theorem Exposes.opened_eq {v : Value} {e : Exposure} (h : Exposes v e) : v.opened = v := by
  cases h <;> rfl

inductive GivesExposure : Option Value → Exposure → Prop
  | absent : GivesExposure none .nothing
  | given {v : Value} {e : Exposure} (h : Exposes v.opened e) : GivesExposure (some v) e

/-- The entries of an import: its options and no others. -/
structure SpelledBy (s : ImportSpec) (es : Entries Value) : Prop where
  options : ∀ k ∈ es.keys, k = .text "from" ∨ k = .text "as" ∨ k = .text "expose"
  source : es.field? "from" = some (.text s.source)
  named : IsName s.source
  quotable : quote ∉ s.source ∧ lineFeed ∉ s.source
  localName : GivesLocalName (es.field? "as") s.localName
  expose : GivesExposure (es.field? "expose") s.expose

theorem isBlank_eq_false_iff {t : Text} : t.isBlank = false ↔ IsName t := by
  simp [Text.isBlank, IsName]

private theorem name?_eq_some_iff {t : Text} : name? v = some t ↔ v = .text t ∧ IsName t := by
  rw [name?, Option.filter_eq_some_iff, Value.text?_eq_some_iff, ← isBlank_eq_false_iff]
  simp

private theorem isOption_iff {k : Scalar} :
    isOption k = true ↔ k = .text "from" ∨ k = .text "as" ∨ k = .text "expose" := by
  simp [isOption, or_assoc]

private theorem readSource_eq_ok_iff {source : Text} : readSource v? = .ok source ↔
    v? = some (.text source) ∧ IsName source ∧ quote ∉ source ∧ lineFeed ∉ source := by
  constructor
  · intro h
    obtain ⟨htext, hblank, hquotable⟩ := readSource_eq_ok h
    obtain ⟨v, rfl, hv⟩ := Option.bind_eq_some_iff.mp htext
    rw [Value.text?_eq_some_iff.mp hv]
    exact ⟨rfl, isBlank_eq_false_iff.mp hblank, hquotable⟩
  · rintro ⟨rfl, hname, hquote, hlineFeed⟩
    have hfound : name? (.text source) = some source := name?_eq_some_iff.mpr ⟨rfl, hname⟩
    have hplain : (source.contains quote || source.contains lineFeed) = false := by
      simp [hquote, hlineFeed]
    rw [readSource, Option.bind_some, hfound]
    exact if_neg (Bool.not_eq_true _ ▸ hplain)

private theorem isNull_iff : v.isNull = true ↔ v = .null := by
  unfold Value.isNull
  split <;> simp_all

private theorem readLocalName_eq_ok_iff {a? : Option Text} :
    readLocalName v? = .ok a? ↔ GivesLocalName v? a? := by
  constructor
  · intro h
    unfold readLocalName at h
    split at h
    · cases h
      exact .absent
    · split at h
      · next hnull =>
        cases h
        rw [isNull_iff.mp hnull]
        exact .null
      · split at h
        · next a ha =>
          cases h
          obtain ⟨rfl, hname⟩ := name?_eq_some_iff.mp ha
          exact .name hname
        · cases h
  · intro h
    cases h with
    | absent => rfl
    | null => rfl
    | name ha =>
      simp only [readLocalName, Value.isNull, Bool.false_eq_true, if_false,
        name?_eq_some_iff.mpr ⟨rfl, ha⟩]

private theorem mapM_name?_eq_some_iff {vs : List Value} {ns : List Text} :
    vs.mapM name? = some ns ↔ vs = ns.map .text ∧ ∀ n ∈ ns, IsName n := by
  induction vs generalizing ns with
  | nil => cases ns <;> simp
  | cons v rest ih =>
    rw [List.mapM_cons]
    simp only [Option.bind_eq_bind, Option.bind_eq_some_iff, ih, name?_eq_some_iff]
    cases ns with
    | nil => simp
    | cons n ns =>
      constructor
      · rintro ⟨_, ⟨rfl, hn⟩, _, ⟨rfl, hns⟩, heq⟩
        cases heq
        exact ⟨rfl, List.forall_mem_cons.mpr ⟨hn, hns⟩⟩
      · rintro ⟨heq, hall⟩
        obtain ⟨rfl, rfl⟩ := List.cons.inj heq
        obtain ⟨hn, hns⟩ := List.forall_mem_cons.mp hall
        exact ⟨n, ⟨rfl, hn⟩, ns, ⟨rfl, hns⟩, rfl⟩

private theorem readNames_eq_ok_iff {vs : List Value} {e : Exposure} : readNames vs = .ok e ↔
    ∃ ns : List Text, vs = ns.map .text ∧ e = .names ns ∧ ns ≠ [] ∧ ∀ n ∈ ns, IsName n := by
  cases vs with
  | nil => simp [readNames]
  | cons v rest =>
    rw [readNames]
    constructor
    · intro h
      split at h
      · next ns hns =>
        cases h
        obtain ⟨hall, hnames⟩ := mapM_name?_eq_some_iff.mp hns
        refine ⟨ns, hall, rfl, ?_, hnames⟩
        rintro rfl
        cases hall
      · cases h
    · rintro ⟨ns, hall, rfl, -, hnames⟩
      rw [mapM_name?_eq_some_iff.mpr ⟨hall, hnames⟩]

private theorem readExpose_eq_ok_iff {e : Exposure} :
    readExpose v? = .ok e ↔ GivesExposure v? e := by
  constructor
  · intro h
    unfold readExpose at h
    split at h
    · cases h
      exact .absent
    · next v =>
      refine .given ?_
      split at h
      · next hnull =>
        cases h
        rw [hnull]
        exact .nothing
      · next word hword =>
        split at h
        · next hstar =>
          cases h
          rw [hword, hstar]
          exact .everything
        · cases h
      · next vs hlist =>
        obtain ⟨ns, rfl, rfl, hne, hnames⟩ := readNames_eq_ok_iff.mp h
        rw [hlist]
        exact .list hne hnames
      · next vs htuple =>
        obtain ⟨ns, rfl, rfl, hne, hnames⟩ := readNames_eq_ok_iff.mp h
        rw [htuple]
        exact .tuple hne hnames
      · cases h
  · intro h
    cases h with
    | absent => rfl
    | @given v e h =>
      rw [readExpose]
      generalize v.opened = opened at h
      cases h with
      | nothing => rfl
      | everything => exact if_pos rfl
      | list hne hns => exact readNames_eq_ok_iff.mpr ⟨_, rfl, rfl, hne, hns⟩
      | tuple hne hns => exact readNames_eq_ok_iff.mpr ⟨_, rfl, rfl, hne, hns⟩

private theorem readOptions_eq_ok_iff : readOptions es = .ok s ↔ s.SpelledBy es := by
  have hunknown : (!(es.keys.filter fun k => !isOption k).isEmpty) = false ↔
      ∀ k ∈ es.keys, k = .text "from" ∨ k = .text "as" ∨ k = .text "expose" := by
    simp [isOption_iff]
  constructor
  · intro h
    unfold readOptions at h
    dsimp only at h
    split at h
    · cases h
    · next hoptions =>
      obtain ⟨source, hsource, h⟩ := bind_eq_ok_iff.mp h
      obtain ⟨localName, hlocal, h⟩ := bind_eq_ok_iff.mp h
      obtain ⟨expose, hexpose, h⟩ := bind_eq_ok_iff.mp h
      cases h
      obtain ⟨hfound, hname, hquotable⟩ := readSource_eq_ok_iff.mp hsource
      exact ⟨hunknown.mp ((Bool.not_eq_true _).mp hoptions), hfound, hname, hquotable,
        readLocalName_eq_ok_iff.mp hlocal, readExpose_eq_ok_iff.mp hexpose⟩
  · intro h
    have hsource := readSource_eq_ok_iff.mpr ⟨h.source, h.named, h.quotable⟩
    have hlocal := readLocalName_eq_ok_iff.mpr h.localName
    have hexpose := readExpose_eq_ok_iff.mpr h.expose
    unfold readOptions
    dsimp only
    rw [hunknown.mpr h.options, hsource, hlocal, hexpose]
    rfl

private theorem ofValue_eq_ok_iff :
    ofValue v = .ok s ↔ ∃ es, v.map? = some es ∧ s.SpelledBy es := by
  rw [ofValue, mapError_eq_ok_iff, read]
  cases v.map? with
  | none => simp
  | some es => simp [readOptions_eq_ok_iff]

private theorem isWritable_of_isOption {k : Scalar} (h : isOption k = true) :
    k.isWritable = true := by
  simp only [isOption, Bool.or_eq_true, decide_eq_true_eq] at h
  rcases h with (rfl | rfl) | rfl <;> rfl

private theorem read_of_hasLongKey (h : v.HasLongKey) :
    ∃ fault, read v = .error fault ∧ fault.isWritable = false := by
  obtain ⟨es, hmap, k, hk, hlong⟩ := h
  have hoption : isOption k = false := by
    by_contra hoption
    have hwritable := isWritable_of_isOption ((Bool.not_eq_false _).mp hoption)
    rw [hlong] at hwritable
    cases hwritable
  have hunknown : k ∈ es.keys.filter fun k => !isOption k := by simp [hk, hoption]
  refine ⟨.unknownOptions (es.keys.filter fun k => !isOption k), ?_, ?_⟩
  · have hsome : (es.keys.filter fun k => !isOption k).isEmpty = false := by
      cases hkeys : es.keys.filter fun k => !isOption k with
      | nil => simp [hkeys] at hunknown
      | cons => rfl
    simp only [read, hmap, readOptions, hsome, Bool.not_false, if_true]
  · rw [ImportFault.isWritable, List.all_eq_false]
    exact ⟨k, hunknown, by simp [hlong]⟩

theorem ofValue_of_hasLongKey (h : v.HasLongKey) :
    ofValue v = .error (.misuse .tooLong) := by
  obtain ⟨fault, hread, hlong⟩ := read_of_hasLongKey h
  rw [ofValue, hread]
  simp [Except.mapError, ImportFault.failure, hlong]

theorem exists_report (h : ¬ v.HasLongKey) (hf : ofValue v = .error f) :
    ∃ message, f = .report (.importSpec message v) := by
  obtain ⟨fault, hread, rfl⟩ := mapError_eq_error_iff.mp hf
  refine ⟨fault.message, if_pos ?_⟩
  rcases isWritable_of_read hread with hwritable | ⟨es, hmap, k, hk, -, hlong⟩
  · exact hwritable
  · exact absurd ⟨es, hmap, k, hk, hlong⟩ h

end ImportSpec

namespace BuiltImport

open ImportSpec

structure IsOf (i : BuiltImport) (s : ImportSpec) : Prop where
  source : i.source = .text s.source
  localName : GivesLocalName (some i.localName) s.localName
  expose : Exposes i.expose s.expose

def written (i : BuiltImport) : Value :=
  .map [(.text "from", i.source), (.text "as", i.localName), (.text "expose", i.expose)]

variable {i : BuiltImport} {s : ImportSpec} {es : Entries Value}

private theorem isOf_ofSpec (h : s.SpelledBy es) : (ofSpec s).IsOf s := by
  obtain ⟨source, localName, expose⟩ := s
  obtain ⟨-, -, -, -, hlocal, hexpose⟩ := h
  refine ⟨rfl, ?_, ?_⟩
  · generalize es.field? "as" = v? at hlocal
    cases hlocal with
    | absent => exact .null
    | null => exact .null
    | name ha => exact .name ha
  · generalize es.field? "expose" = v? at hexpose
    cases hexpose with
    | absent => exact .nothing
    | @given v e hexpose =>
      generalize v.opened = opened at hexpose
      cases hexpose with
      | nothing => exact .nothing
      | everything => exact .everything
      | list hne hns => exact .tuple hne hns
      | tuple hne hns => exact .tuple hne hns

private theorem spelledBy_written (h : s.SpelledBy es) (hi : i.IsOf s) :
    ∃ es', i.written.map? = some es' ∧ s.SpelledBy es' := by
  refine ⟨_, rfl, ?_, congrArg some hi.source, h.named, h.quotable, hi.localName, .given ?_⟩
  · intro k hk
    simpa [Entries.keys] using hk
  · rw [hi.expose.opened_eq]
    exact hi.expose

private theorem names_eq_ok {ns : List Text} (h : i.expose.parts = .ok (ns.map .text)) :
    i.names = .ok ns := by
  have htexts : (ns.map Value.text).mapM Value.text? = some ns := by
    rw [List.mapM_map]
    exact List.mapM_pure.trans (congrArg some (List.map_id ns))
  rw [names, h]
  simp only [bind, Except.bind, htexts]

private theorem bindings_eq_ok (hi : i.IsOf s) : i.bindings = .ok s.expose.bindings? := by
  obtain ⟨source, localName, expose⟩ := s
  obtain ⟨given, as', exposed⟩ := i
  obtain ⟨-, -, hexpose⟩ := hi
  cases hexpose with
  | nothing => rfl
  | everything => rfl
  | list hne hns =>
    rw [bindings, names_eq_ok rfl]
    rfl
  | tuple hne hns =>
    rw [bindings, names_eq_ok rfl]
    rfl

theorem line_eq_ok (hi : i.IsOf s) : i.line = .ok s.line := by
  rw [line, bindings_eq_ok hi]
  obtain ⟨source, localName, expose⟩ := s
  obtain ⟨given, as', exposed⟩ := i
  obtain ⟨rfl, hlocal, -⟩ := hi
  cases hlocal with
  | null => rfl
  | @name a ha =>
    have hsome : a.isEmpty = false := by
      obtain ⟨c, hc, -⟩ := ha
      exact List.isEmpty_eq_false_iff.mpr (List.ne_nil_of_mem hc)
    have hdefault : default? ⟨source, some a, expose⟩ = some a := by
      simp [default?, hsome]
    simp [ImportSpec.line, hdefault, Except.map, Value.isTruthy, Scalar.isTruthy, hsome,
      Value.plain, Scalar.plain]

end BuiltImport

/-- The line of a value is the line of the import that it spells. -/
theorem Import.line_given {v : Value} {es : Entries Value} {s : ImportSpec}
    (hmap : v.map? = some es) (hs : s.SpelledBy es) : (Import.given v).line = .ok s.line :=
  map_eq_ok_iff.mpr ⟨s, ImportSpec.ofValue_eq_ok_iff.mpr ⟨es, hmap, hs⟩, rfl⟩

private theorem Import.build_given_eq_ok_iff {v : Value} {i : BuiltImport} :
    (Import.given v).build = .ok i ↔ ∃ es s, v.map? = some es ∧ s.SpelledBy es ∧ i = .ofSpec s := by
  simp only [Import.build, map_eq_ok_iff, ImportSpec.ofValue_eq_ok_iff]
  constructor
  · rintro ⟨s, ⟨es, hmap, hs⟩, rfl⟩
    exact ⟨es, s, hmap, hs, rfl⟩
  · rintro ⟨es, s, hmap, hs, rfl⟩
    exact ⟨s, ⟨es, hmap, hs⟩, rfl⟩

private theorem Import.build_of_hasLongKey {v : Value} (h : v.HasLongKey) :
    (Import.given v).build = .error (.misuse .tooLong) :=
  map_eq_error_iff.mpr (ImportSpec.ofValue_of_hasLongKey h)

/-- A value is read as an import exactly if its entries spell one, which is then this import. It is
refused with a report that carries it if they do not, unless a key is too long to be written. What
has been read is read again from the mapping of its options, and all of these have the same line.
What a host has built is left as it is. -/
theorem build_decided (v : Value) :
    (∀ i, (Import.given v).build = .ok i ↔
      ∃ es s, v.map? = some es ∧ s.SpelledBy es ∧ i = .ofSpec s) ∧
    ((¬ ∃ i, (Import.given v).build = .ok i) →
      (¬ v.HasLongKey → ∃ message,
        (Import.given v).build = .error (.report (.importSpec message v))) ∧
      (v.HasLongKey → (Import.given v).build = .error (.misuse .tooLong))) ∧
    (∀ i, (Import.given v).build = .ok i →
      (Import.given i.written).build = .ok i ∧
      ∃ line, (Import.given v).line = .ok line ∧ (Import.given i.written).line = .ok line ∧
        (Import.built i).line = .ok line) ∧
    ∀ i, (Import.built i).build = .ok i := by
  refine ⟨fun i => Import.build_given_eq_ok_iff,
    fun hrefused => ⟨fun hshort => ?_, Import.build_of_hasLongKey⟩, fun i hi => ?_, fun i => rfl⟩
  · cases hread : ImportSpec.ofValue v with
    | ok s => exact absurd ⟨_, map_eq_ok_iff.mpr ⟨s, hread, rfl⟩⟩ hrefused
    | error f =>
      obtain ⟨message, rfl⟩ := ImportSpec.exists_report hshort hread
      exact ⟨message, map_eq_error_iff.mpr hread⟩
  · obtain ⟨es, s, hmap, hs, rfl⟩ := Import.build_given_eq_ok_iff.mp hi
    have hparts := BuiltImport.isOf_ofSpec hs
    obtain ⟨es', hmap', hs'⟩ := BuiltImport.spelledBy_written hs hparts
    refine ⟨Import.build_given_eq_ok_iff.mpr ⟨es', s, hmap', hs', rfl⟩, s.line,
      Import.line_given hmap hs, Import.line_given hmap' hs', ?_⟩
    exact mapError_eq_ok_iff.mpr (BuiltImport.line_eq_ok hparts)

def listedImport : Value :=
  .map [(.text "expose", .list [.text "b", .text "c"]), (.text "from", .text "./a b"),
    (.text "as", .null)]

theorem build_decided_listed :
    let i : BuiltImport := ⟨.text "./a b", .null, .tuple [.text "b", .text "c"]⟩
    (Import.given listedImport).build = .ok i ∧ (Import.given i.written).build = .ok i ∧
    (Import.built i).line = .ok "import \x7b b, c \x7d from './a b'" ∧
    ∃ message,
      (Import.given (.list [])).build = .error (.report (.importSpec message (.list []))) := by
  intro i
  have hbuild : (Import.given listedImport).build = .ok i := rfl
  obtain ⟨-, -, hagain, -⟩ := build_decided listedImport
  obtain ⟨hwritten, line, hline, -, hbuilt⟩ := hagain i hbuild
  have hgiven : (Import.given listedImport).line = .ok "import \x7b b, c \x7d from './a b'" := rfl
  rw [hgiven] at hline
  cases hline
  have hshort : ¬ Value.HasLongKey (.list []) := by
    rintro ⟨es, hmap, -⟩
    cases hmap
  have hlist : ¬ ∃ i, (Import.given (.list [])).build = .ok i := by
    rintro ⟨i, hi⟩
    cases hi
  exact ⟨hbuild, hwritten, hbuilt, ((build_decided (.list [])).2.1 hlist).1 hshort⟩

/-- A source, and a key of one digit more than are written. -/
def longOptionImport : Value :=
  .map [(.text "from", .text "a"), (.int (Nat.pow 10 4300), .null)]

theorem longOption_unreported :
    (Import.given longOptionImport).build = .error (.misuse .tooLong) ∧
    ¬ ∃ message, (Import.given longOptionImport).build =
      .error (.report (.importSpec message longOptionImport)) := by
  have hlong : longOptionImport.HasLongKey :=
    ⟨_, rfl, .int (Nat.pow 10 4300), List.mem_cons_of_mem _ List.mem_cons_self,
      by decide +kernel⟩
  have hbuild := Import.build_of_hasLongKey hlong
  refine ⟨hbuild, ?_⟩
  rintro ⟨message, hreport⟩
  rw [hbuild] at hreport
  cases hreport

end SceneBook
