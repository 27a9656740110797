import SceneBook.Import.Given
import SceneBook.Proofs.Results
import SceneBook.Proofs.Text.ScriptLiteral

/-!
# Lines of given imports

A mapping is refused with a report that carries it, or it gives one import. The reader of a mapping
lets no quote and no line feed into a source, but backslashes and carriage returns, and lets any
line break into a name. The line of an import is one line with its source as a literal exactly if
none of these is in it.
-/

namespace SceneBook

open ScriptLiteral
open Text (lineFeed)

def Exposure.listed : Exposure → List Text
  | .names ns => ns
  | _ => []

/-- The text holds no line break. -/
def IsOneLine (t : Text) : Prop := ∀ c ∈ t, isLineBreak c = false

instance (t : Text) : Decidable (IsOneLine t) :=
  inferInstanceAs (Decidable (∀ c ∈ t, isLineBreak c = false))

private theorem isOneLine_iff {t : Text} : IsOneLine t ↔ lineFeed ∉ t ∧ carriageReturn ∉ t := by
  simp only [IsOneLine, isLineBreak_eq_false_iff]
  constructor
  · intro h
    exact ⟨fun hmem => (h _ hmem).1 rfl, fun hmem => (h _ hmem).2 rfl⟩
  · rintro ⟨hlineFeed, hreturn⟩ c hc
    exact ⟨fun heq => hlineFeed (heq ▸ hc), fun heq => hreturn (heq ▸ hc)⟩

private theorem isOneLine_append {a b : Text} : IsOneLine (a ++ b) ↔ IsOneLine a ∧ IsOneLine b := by
  unfold IsOneLine
  rw [List.forall_mem_append]

private theorem isOneLine_join {sep : Text} (hsep : IsOneLine sep) (ts : List Text) :
    IsOneLine (Text.join sep ts) ↔ ∀ t ∈ ts, IsOneLine t := by
  induction ts with
  | nil => simp [Text.join, IsOneLine]
  | cons t rest ih =>
    by_cases hrest : rest = []
    · subst rest
      simp [Text.join]
    · rw [Text.join_cons _ _ hrest, isOneLine_append, isOneLine_append, ih, List.forall_mem_cons]
      simp only [hsep, and_true]

namespace ImportSpec

/-- The names that an import binds, the default first. -/
def bound (s : ImportSpec) : List Text := s.localName.toList ++ s.expose.listed

def opening (s : ImportSpec) : Text :=
  match s.expose.bindings?, s.default? with
  | some b, some d => "import " ++ d ++ ", " ++ b ++ " from "
  | some b, none => "import " ++ b ++ " from "
  | none, some d => "import " ++ d ++ " from "
  | none, none => "import "

def specifier (s : ImportSpec) : Text := quote :: s.source ++ [quote]

theorem line_eq (s : ImportSpec) : s.line = s.opening ++ s.specifier := by
  have hspecifier : s.specifier = "'" ++ s.source ++ "'" := rfl
  rw [hspecifier]
  unfold line importLine opening
  cases s.expose.bindings? with
  | none => cases s.default? <;> simp only [List.append_assoc]
  | some b => cases s.default? <;> simp only [List.append_assoc]

private theorem isOneLine_bindings (e : Exposure) :
    (∀ b ∈ e.bindings?, IsOneLine b) ↔ ∀ name ∈ e.listed, IsOneLine name := by
  cases e with
  | nothing => simp [Exposure.bindings?, Exposure.listed]
  | everything =>
    have hstar : IsOneLine "*" := by decide
    simp [Exposure.bindings?, Exposure.listed, hstar]
  | names ns =>
    have hopen : IsOneLine "\x7b " := by decide
    have hclose : IsOneLine " \x7d" := by decide
    have hcomma : IsOneLine ", " := by decide
    have hjoin := isOneLine_join hcomma ns
    simp [Exposure.bindings?, Exposure.listed, Exposure.namesText, isOneLine_append, hopen, hclose,
      hjoin]

private theorem isOneLine_default (s : ImportSpec) :
    (∀ d ∈ s.default?, IsOneLine d) ↔ ∀ name ∈ s.localName, IsOneLine name := by
  have hempty : IsOneLine [] := by decide
  rw [default?]
  cases s.localName with
  | none => simp
  | some a =>
    by_cases ha : a = []
    · simp [ha, hempty]
    · simp [Option.filter, ha]

private theorem isOneLine_opening (s : ImportSpec) :
    IsOneLine s.opening ↔ ∀ name ∈ s.bound, IsOneLine name := by
  have himport : IsOneLine "import " := by decide
  have hfrom : IsOneLine " from " := by decide
  have hcomma : IsOneLine ", " := by decide
  have hparts : IsOneLine s.opening ↔
      (∀ d ∈ s.default?, IsOneLine d) ∧ ∀ b ∈ s.expose.bindings?, IsOneLine b := by
    rw [opening]
    cases s.expose.bindings? <;> cases s.default? <;>
      simp [isOneLine_append, himport, hfrom, hcomma]
  rw [hparts, isOneLine_default, isOneLine_bindings, bound, List.forall_mem_append]
  simp only [Option.mem_toList, Option.mem_def]

private theorem isOneLine_line (s : ImportSpec) :
    IsOneLine s.line ↔ IsOneLine s.source ∧ ∀ name ∈ s.bound, IsOneLine name := by
  have hspecifier : s.specifier = "'" ++ s.source ++ "'" := rfl
  have hquote : IsOneLine "'" := by decide
  rw [line_eq, isOneLine_append, isOneLine_opening, hspecifier, isOneLine_append, isOneLine_append]
  simp only [hquote, true_and, and_comm]

theorem readSource_eq_ok {v : Option Value} {source : Text} (h : readSource v = .ok source) :
    v.bind Value.text? = some source ∧ source.isBlank = false ∧ quote ∉ source ∧
      lineFeed ∉ source := by
  have hname : v.bind name? = (v.bind Value.text?).filter fun t => !t.isBlank := by
    cases v <;> rfl
  rw [readSource, hname] at h
  split at h
  · cases h
  · next given hgiven =>
    split at h
    · cases h
    · next hquotable =>
      cases h
      obtain ⟨htext, hblank⟩ := Option.filter_eq_some_iff.mp hgiven
      simp only [Bool.or_eq_true, List.contains_iff_mem, not_or] at hquotable
      exact ⟨htext, by simpa using hblank, hquotable⟩

private theorem read_eq_ok {v : Value} {s : ImportSpec} (h : read v = .ok s) :
    ∃ es, v.map? = some es ∧ (∀ k ∈ es.keys, isOption k = true) ∧
      readSource (es.field? "from") = .ok s.source := by
  rw [read] at h
  split at h
  · next es hmap =>
    unfold readOptions at h
    dsimp only at h
    split at h
    · cases h
    · next hunknown =>
      obtain ⟨source, hsource, h⟩ := bind_eq_ok_iff.mp h
      obtain ⟨localName, -, h⟩ := bind_eq_ok_iff.mp h
      obtain ⟨expose, -, h⟩ := bind_eq_ok_iff.mp h
      cases h
      refine ⟨es, hmap, ?_, hsource⟩
      simpa using hunknown
  · cases h

private theorem isWritable_of_readSource {v : Option Value} {fault : ImportFault}
    (h : readSource v = .error fault) : fault.isWritable = true := by
  rw [readSource] at h
  split at h
  · cases h
    rfl
  · split at h
    · cases h
      rfl
    · cases h

private theorem isWritable_of_readLocalName {v : Option Value} {fault : ImportFault}
    (h : readLocalName v = .error fault) : fault.isWritable = true := by
  unfold readLocalName at h
  split at h
  · cases h
  · split at h
    · cases h
    · split at h
      · cases h
      · cases h
        rfl

private theorem isWritable_of_readNames {vs : List Value} {fault : ImportFault}
    (h : readNames vs = .error fault) : fault.isWritable = true := by
  unfold readNames at h
  split at h
  · cases h
    rfl
  · split at h
    · cases h
    · cases h
      rfl

private theorem isWritable_of_readExpose {v : Option Value} {fault : ImportFault}
    (h : readExpose v = .error fault) : fault.isWritable = true := by
  unfold readExpose at h
  split at h
  · cases h
  · split at h
    · cases h
    · split at h
      · cases h
      · cases h
        rfl
    · exact isWritable_of_readNames h
    · exact isWritable_of_readNames h
    · cases h
      rfl

/-- What keeps the message of a fault from being written is a key that is no option. -/
theorem isWritable_of_read {v : Value} {fault : ImportFault} (h : read v = .error fault) :
    fault.isWritable = true ∨ ∃ es, v.map? = some es ∧
      ∃ k ∈ es.keys, isOption k = false ∧ k.isWritable = false := by
  rw [read] at h
  split at h
  · next es hmap =>
    unfold readOptions at h
    dsimp only at h
    split at h
    · cases h
      by_cases hkeys : (es.keys.filter fun k => !isOption k).all Scalar.isWritable = true
      · exact .inl hkeys
      · simp only [List.all_eq_true, not_forall] at hkeys
        obtain ⟨k, hk, hwritable⟩ := hkeys
        obtain ⟨hmem, hoption⟩ := List.mem_filter.mp hk
        exact .inr ⟨es, hmap, k, hmem, by simpa using hoption, by simpa using hwritable⟩
    · rcases bind_eq_error_iff.mp h with h | ⟨source, -, h⟩
      · exact .inl (isWritable_of_readSource h)
      · rcases bind_eq_error_iff.mp h with h | ⟨localName, -, h⟩
        · exact .inl (isWritable_of_readLocalName h)
        · rcases bind_eq_error_iff.mp h with h | ⟨expose, -, h⟩
          · exact .inl (isWritable_of_readExpose h)
          · cases h
  · cases h
    exact .inl rfl

/-- Of what a source must not hold to be a literal as it is, the reader refuses the half. -/
theorem spells_specifier_iff {s : ImportSpec} (hquote : quote ∉ s.source)
    (hlineFeed : lineFeed ∉ s.source) :
    Spells s.specifier s.source ↔ backslash ∉ s.source ∧ carriageReturn ∉ s.source := by
  rw [specifier, spells_iff]
  constructor
  · intro h
    refine ⟨fun hmem => (h _ hmem).ne_backslash rfl, fun hmem => ?_⟩
    exact (isLineBreak_eq_false_iff.mp (h _ hmem).not_barred).2 rfl
  · rintro ⟨hbackslash, hreturn⟩ c hc
    have hflat : isLineBreak c = false := isOneLine_iff.mpr ⟨hlineFeed, hreturn⟩ c hc
    exact ⟨fun heq => hquote (heq ▸ hc), fun heq => hbackslash (heq ▸ hc), hflat⟩

end ImportSpec

/-- A value that is refused stands in the report of that, but for a key that is too long to write
out. Any other value gives the source of one import. Its line has the source as a literal exactly if
no backslash and no carriage return is in the source, and is one line exactly if neither a carriage
return is in the source nor a line break in a name. -/
theorem given_line_verdict (v : Value) :
    (∀ failure, (Import.given v).line = .error failure →
      ∃ fault, ImportSpec.read v = .error fault ∧
        (failure = .report (.importSpec fault.message v) ∨
        failure = .misuse .tooLong ∧ ∃ es, v.map? = some es ∧
          ∃ k ∈ es.keys, ImportSpec.isOption k = false ∧ k.isWritable = false)) ∧
    ∀ line, (Import.given v).line = .ok line →
      ∃ es s, ImportSpec.ofValue v = .ok s ∧
        v.map? = some es ∧ (∀ k ∈ es.keys, ImportSpec.isOption k = true) ∧
        (es.field? "from").bind Value.text? = some s.source ∧
        line = s.opening ++ s.specifier ∧
        (Spells s.specifier s.source ↔ backslash ∉ s.source ∧ carriageReturn ∉ s.source) ∧
        (IsOneLine line ↔ carriageReturn ∉ s.source ∧ ∀ name ∈ s.bound, IsOneLine name) := by
  constructor
  · intro failure h
    obtain ⟨fault, hread, rfl⟩ := mapError_eq_error_iff.mp (map_eq_error_iff.mp h)
    refine ⟨fault, hread, ?_⟩
    by_cases hfault : fault.isWritable = true
    · exact .inl (if_pos hfault)
    · exact .inr ⟨if_neg hfault, (ImportSpec.isWritable_of_read hread).resolve_left hfault⟩
  · intro line h
    obtain ⟨s, hspec, rfl⟩ := map_eq_ok_iff.mp h
    obtain ⟨es, hmap, hoptions, hsource⟩ := ImportSpec.read_eq_ok (mapError_eq_ok_iff.mp hspec)
    obtain ⟨htext, -, hquote, hlineFeed⟩ := ImportSpec.readSource_eq_ok hsource
    refine ⟨es, s, hspec, hmap, hoptions, htext, ImportSpec.line_eq s,
      ImportSpec.spells_specifier_iff hquote hlineFeed, ?_⟩
    rw [ImportSpec.isOneLine_line, isOneLine_iff]
    simp only [hlineFeed, not_false_eq_true, true_and]

def namedImport : Value :=
  .map [(.text "from", .text "a"), (.text "as", .text "d"), (.text "expose", .list [.text "b"])]

theorem given_line_verdict_named :
    ∃ s, ImportSpec.ofValue namedImport = .ok s ∧
      (Import.given namedImport).line = .ok "import d, \x7b b \x7d from 'a'" ∧
      Spells s.specifier "a" ∧ IsOneLine "import d, \x7b b \x7d from 'a'" := by
  have hline : (Import.given namedImport).line = .ok "import d, \x7b b \x7d from 'a'" := rfl
  obtain ⟨es, s, hspec, hmap, -, htext, -, hspells, hone⟩ :=
    (given_line_verdict namedImport).2 _ hline
  cases hspec
  exact ⟨_, rfl, hline, hspells.mpr (by decide), hone.mpr (by decide)⟩

def unclosedImport : Value := .map [(.text "from", .text "a\\")]

def brokenImport : Value := .map [(.text "from", .text "a"), (.text "as", .text "d\ne")]

theorem backslash_opens_specifier :
    (∃ s, ImportSpec.ofValue unclosedImport = .ok s ∧ s.source = "a\\" ∧
      (Import.given unclosedImport).line = .ok "import 'a\\'" ∧ ¬ Spells s.specifier s.source) ∧
    ∃ line, (Import.given brokenImport).line = .ok line ∧ ¬ IsOneLine line := by
  refine ⟨⟨_, rfl, rfl, rfl, fun hspells => ?_⟩, _, rfl, by decide⟩
  exact ((ImportSpec.spells_specifier_iff (by decide) (by decide)).mp hspells).1 (by decide)

end SceneBook
