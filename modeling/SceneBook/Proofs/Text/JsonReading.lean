import SceneBook.Proofs.Results
import SceneBook.Proofs.Text.Decimal
import SceneBook.Proofs.Text.JsonLiteral
import SceneBook.Value.Basic

/-!
# Reading lists of mappings from JSON

A reader takes something off the start of a text and leaves the rest. White space may stand ahead of
each sign, so that one reader serves every layout. A number has no end of its own and goes on as
long as there are digits.
-/

namespace SceneBook.JsonReading

/-- What a reader finds at the start of a text, and what is left of it. -/
abbrev Reader (α : Type) := Text → Option (α × Text)

def isSpace (c : CodePoint) : Bool :=
  c = .scalar ' ' || c = .scalar '\n' || c = .scalar '\r' || c = .scalar '\t'

def char? : CodePoint → Option Char
  | .scalar c => some c
  | .surrogate _ => none

def isDigit (c : CodePoint) : Bool := (char? c).any Char.isDigit

def after? (sign : CodePoint) (t : Text) : Option Text :=
  match t.dropWhile isSpace with
  | c :: rest => if c = sign then some rest else none
  | [] => none

def string : Reader Text := fun t => (after? JsonLiteral.quote t).bind JsonLiteral.scan

def natural : Reader Nat := fun t =>
  let digits := (t.takeWhile isDigit).filterMap char?
  if digits.isEmpty then none else some (Nat.ofDigitChars 10 digits 0, t.dropWhile isDigit)

def integer : Reader Int := fun t =>
  match after? (.scalar '-') t with
  | some rest => (natural rest).map fun (n, rest) => (-n, rest)
  | none => (natural (t.dropWhile isSpace)).map fun (n, rest) => (n, rest)

def part : Reader Value := fun t =>
  match string t with
  | some (found, rest) => some (.text found, rest)
  | none => (integer t).map fun (i, rest) => (.int i, rest)

def member : Reader (Scalar × Value) := fun t => do
  let (key, t) ← string t
  let t ← after? (.scalar ':') t
  let (v, t) ← part t
  pure ((.text key, v), t)

/-- One item or more with commas between them, and the sign at their end. -/
def items {α : Type} (item : Reader α) (close : CodePoint) : Nat → Reader (List α)
  | 0, _ => none
  | n + 1, t => do
    let (a, t) ← item t
    match after? (.scalar ',') t with
    | some t => (items item close n t).map fun (as, t) => (a :: as, t)
    | none => (after? close t).map fun t => ([a], t)

def block {α : Type} (item : Reader α) (opening close : CodePoint) : Reader (List α) := fun t => do
  let t ← after? opening t
  match items item close t.length t with
  | some found => some found
  | none => (after? close t).map fun t => ([], t)

def mapping : Reader (Entries Value) := block member (.scalar '\x7b') (.scalar '\x7d')

def listing : Reader (List (Entries Value)) := block mapping (.scalar '[') (.scalar ']')

/-- The mappings that a whole text lists. -/
def listing? (t : Text) : Option (List (Entries Value)) :=
  match listing t with
  | some (found, rest) => if rest.all isSpace then some found else none
  | none => none

/-- A reader takes all of a text for one thing, whatever comes after it but a digit. -/
def Reads {α : Type} (reader : Reader α) (t : Text) (a : α) : Prop :=
  ∀ rest : Text, rest.Stops isDigit → reader (t ++ rest) = some (a, rest)

variable {gap rest : Text} {c sign : CodePoint}

private theorem after?_gap (hgap : ∀ d ∈ gap, isSpace d) (hc : isSpace c = false) :
    after? sign (gap ++ c :: rest) = if c = sign then some rest else none := by
  rw [after?, Text.dropWhile_run hgap (Text.stops_cons.mpr hc)]

theorem after?_eq (hgap : ∀ d ∈ gap, isSpace d) (hc : isSpace c = false) :
    after? c (gap ++ c :: rest) = some rest := by
  rw [after?_gap hgap hc, if_pos rfl]

private theorem after?_ne (hgap : ∀ d ∈ gap, isSpace d) (hc : isSpace c = false) (hne : c ≠ sign) :
    after? sign (gap ++ c :: rest) = none := by
  rw [after?_gap hgap hc, if_neg hne]

private theorem scan_plainPoint {t : Text} (h : Text.plainPoint? c = some t) (rest : Text) :
    JsonLiteral.scan (t ++ rest) =
      (JsonLiteral.scan rest).map fun later => (c :: later.1, later.2) := by
  cases c with
  | surrogate s => cases h
  | scalar a =>
    unfold Text.plainPoint? at h
    cases hshort : Text.shortEscape? (.scalar a) with
    | some escape =>
      obtain rfl : escape = t := by simpa [CodePoint.isSurrogate, hshort] using h
      exact (JsonLiteral.spelling_shortEscape hshort).scan_append rest
    | none =>
      simp only [CodePoint.isSurrogate, hshort, Bool.false_eq_true, if_false,
        Option.some.injEq] at h
      subst h
      split_ifs with hcontrol
      · have hunit : a.toNat < 0x10000 := Nat.lt_trans hcontrol (by decide)
        exact (JsonLiteral.Spelling.unit (c := .scalar a) hunit).scan_append rest
      · have hquote : CodePoint.scalar a ≠ JsonLiteral.quote := by
          intro heq
          rw [heq] at hshort
          cases hshort
        have hbackslash : CodePoint.scalar a ≠ ScriptLiteral.backslash := by
          intro heq
          rw [heq] at hshort
          cases hshort
        exact JsonLiteral.scan_plain hquote hbackslash (Nat.not_lt.mp hcontrol) rest

private theorem scan_plainJson {t : Text} {parts : List Text}
    (h : t.mapM Text.plainPoint? = some parts) (rest : Text) :
    JsonLiteral.scan (parts.flatten ++ JsonLiteral.quote :: rest) = some (t, rest) := by
  induction mapM_eq_some_iff.mp h with
  | nil => rw [List.flatten_nil, List.nil_append, JsonLiteral.scan, if_pos rfl]
  | cons hfirst hlater ih =>
    rw [List.flatten_cons, List.append_assoc, scan_plainPoint hfirst,
      ih (mapM_eq_some_iff.mpr hlater)]
    rfl

theorem string_plainJson {t literal : Text} (h : t.plainJson? = some literal)
    (hgap : ∀ d ∈ gap, isSpace d) (rest : Text) :
    string (gap ++ literal ++ rest) = some (t, rest) := by
  obtain ⟨parts, hparts, rfl⟩ := Option.map_eq_some_iff.mp h
  have hquote : after? JsonLiteral.quote
      (gap ++ (JsonLiteral.quote :: parts.flatten ++ [JsonLiteral.quote]) ++ rest) =
        some (parts.flatten ++ JsonLiteral.quote :: rest) := by
    simp only [List.append_assoc, List.cons_append, List.nil_append]
    exact after?_eq hgap (by decide)
  change (after? JsonLiteral.quote _).bind _ = _
  rw [show CodePoint.scalar '"' = JsonLiteral.quote from rfl, hquote, Option.bind_some]
  exact scan_plainJson hparts rest

private theorem isDigit_of_mem_ofNat {n : Nat} (h : c ∈ Text.ofNat n) : isDigit c := by
  obtain ⟨d, hd, rfl⟩ := List.mem_map.mp h
  exact Nat.isDigit_of_mem_toDigits (by decide) (by decide) hd

private theorem reads_natural (n : Nat) : Reads natural (Text.ofNat n) n := by
  intro rest hrest
  have hdigits : ∀ c ∈ Text.ofNat n, isDigit c := fun c => isDigit_of_mem_ofNat
  have hchars : (Text.ofNat n).filterMap char? = Nat.toDigits 10 n := by
    simp [Text.ofNat, Text.ofChars, List.filterMap_map, Function.comp_def, char?]
  simp only [natural, Text.takeWhile_run hdigits hrest, Text.dropWhile_run hdigits hrest, hchars]
  simp [Nat.toDigits_ne_nil]

private theorem exists_head_ofNat (n : Nat) :
    ∃ c cs, Text.ofNat n = c :: cs ∧ isDigit c = true := by
  have hne : Text.ofNat n ≠ [] := by simp [Text.ofNat, Text.ofChars, Nat.toDigits_ne_nil]
  obtain ⟨c, cs, hn⟩ := List.exists_cons_of_ne_nil hne
  exact ⟨c, cs, hn, isDigit_of_mem_ofNat (hn ▸ List.mem_cons_self)⟩

private theorem exists_head_ofInt (i : Int) :
    ∃ c cs, Text.ofInt i = c :: cs ∧ (c = .scalar '-' ∨ isDigit c = true) := by
  cases i with
  | negSucc n => exact ⟨_, _, rfl, .inl rfl⟩
  | ofNat n =>
    obtain ⟨c, cs, hn, hc⟩ := exists_head_ofNat n
    exact ⟨c, cs, hn, .inr hc⟩

private theorem isDigit_of_isSpace (h : isSpace c = true) : isDigit c = false := by
  simp only [isSpace, Bool.or_eq_true, decide_eq_true_eq] at h
  rcases h with ((rfl | rfl) | rfl) | rfl <;> decide

private theorem isSpace_of_isDigit (h : isDigit c = true) : isSpace c = false := by
  rw [← Bool.not_eq_true]
  intro hspace
  rw [isDigit_of_isSpace hspace] at h
  cases h

private theorem stops_of_isSpace (hgap : ∀ d ∈ gap, isSpace d) : gap.Stops isDigit :=
  Text.stops_of_forall fun d hd => isDigit_of_isSpace (hgap d hd)

private theorem reads_integer (hgap : ∀ d ∈ gap, isSpace d) (i : Int) :
    Reads integer (gap ++ Text.ofInt i) i := by
  intro rest hrest
  cases i with
  | negSucc n =>
    have hminus : after? (.scalar '-') (gap ++ Text.ofInt (.negSucc n) ++ rest) =
        some (Text.ofNat (n + 1) ++ rest) := by
      rw [List.append_assoc]
      exact after?_eq hgap (by decide)
    simp only [integer, hminus, reads_natural (n + 1) rest hrest]
    rfl
  | ofNat n =>
    obtain ⟨c, cs, hn, hc⟩ := exists_head_ofNat n
    have hspace : isSpace c = false := isSpace_of_isDigit hc
    have hdigits : gap ++ Text.ofInt (.ofNat n) ++ rest = gap ++ c :: (cs ++ rest) := by
      rw [Text.ofInt, hn, List.append_assoc, List.cons_append]
    have hminus : after? (.scalar '-') (gap ++ Text.ofInt (.ofNat n) ++ rest) = none := by
      rw [hdigits]
      refine after?_ne hgap hspace ?_
      rintro rfl
      exact absurd hc (by decide)
    have hdrop : (gap ++ Text.ofInt (.ofNat n) ++ rest).dropWhile isSpace =
        Text.ofNat n ++ rest := by
      rw [hdigits, Text.dropWhile_run hgap (Text.stops_cons.mpr hspace), hn, List.cons_append]
    simp only [integer, hminus, hdrop, reads_natural n rest hrest]
    rfl

theorem reads_part_text {t literal : Text} (h : t.plainJson? = some literal)
    (hgap : ∀ d ∈ gap, isSpace d) : Reads part (gap ++ literal) (.text t) := by
  intro rest _
  rw [part, string_plainJson h hgap]

theorem reads_part_int (hgap : ∀ d ∈ gap, isSpace d) (i : Int) :
    Reads part (gap ++ Text.ofInt i) (.int i) := by
  intro rest hrest
  have hstring : string (gap ++ Text.ofInt i ++ rest) = none := by
    obtain ⟨c, cs, hi, hc⟩ := exists_head_ofInt i
    have hspace : isSpace c = false := by
      rcases hc with rfl | hc
      · rfl
      · exact isSpace_of_isDigit hc
    have hquote : c ≠ JsonLiteral.quote := by
      rintro rfl
      exact absurd hc (by decide)
    rw [string, hi, List.append_assoc, List.cons_append, after?_ne hgap hspace hquote]
    rfl
  rw [part, hstring, reads_integer hgap i rest hrest]
  rfl

section

variable {α : Type} {item : Reader α} {close opening : CodePoint} {texts : List Text} {as : List α}

private theorem length_le_join (texts : List Text) :
    texts.length ≤ (Text.join "," texts).length + 1 := by
  induction texts with
  | nil => exact Nat.zero_le _
  | cons t rest ih =>
    by_cases hrest : rest = []
    · subst hrest
      exact Nat.le_add_left _ _
    · have hcomma : ("," : Text).length = 1 := rfl
      rw [Text.join_cons _ _ hrest, List.length_cons, List.length_append, List.length_append,
        hcomma]
      omega

/-- What may end a list of items: a sign that neither a number nor another item goes on with. -/
structure Closes (close : CodePoint) : Prop where
  space : isSpace close = false
  digit : isDigit close = false
  comma : close ≠ .scalar ','

private theorem stops_gap (hclose : Closes close) (hgap : ∀ d ∈ gap, isSpace d) (rest : Text) :
    (gap ++ close :: rest).Stops isDigit := by
  cases gap with
  | nil => exact Text.stops_cons.mpr hclose.digit
  | cons d ds => exact (Text.stops_append (List.cons_ne_nil d ds)).mpr (stops_of_isSpace hgap)

private theorem items_eq (hclose : Closes close) (hgap : ∀ d ∈ gap, isSpace d)
    (h : List.Forall₂ (Reads item) texts as) (hne : texts ≠ []) {n : Nat} (hn : texts.length ≤ n)
    (rest : Text) :
    items item close n (Text.join "," texts ++ (gap ++ close :: rest)) = some (as, rest) := by
  induction h generalizing n with
  | nil => exact absurd rfl hne
  | @cons t a texts as ht hrest ih =>
    obtain ⟨n, rfl⟩ := Nat.exists_eq_add_one.mpr (Nat.lt_of_lt_of_le (Nat.succ_pos _) hn)
    cases hrest with
    | nil =>
      have hcomma : after? (.scalar ',') (gap ++ close :: rest) = none :=
        after?_ne hgap hclose.space hclose.comma
      have hend : after? close (gap ++ close :: rest) = some rest := after?_eq hgap hclose.space
      simp only [items, Text.join, ht _ (stops_gap hclose hgap rest), Option.bind_eq_bind,
        Option.bind_some, hcomma, hend, Option.map_some]
    | @cons t' a' texts as ht' hrest =>
      have hcomma (later : Text) : after? (.scalar ',') (.scalar ',' :: later) = some later :=
        after?_eq (List.forall_mem_nil _) (by decide)
      have hstops (later : Text) : Text.Stops isDigit (.scalar ',' :: later) :=
        Text.stops_cons.mpr (by decide)
      have hlater := ih (List.cons_ne_nil _ _) (Nat.le_of_succ_le_succ hn)
      have hshape : Text.join "," (t :: t' :: texts) ++ (gap ++ close :: rest) =
          t ++ .scalar ',' :: (Text.join "," (t' :: texts) ++ (gap ++ close :: rest)) := by
        rw [Text.join_cons "," t (List.cons_ne_nil t' texts), List.append_assoc, List.append_assoc]
        rfl
      simp only [hshape, items, ht _ (hstops _), Option.bind_eq_bind, Option.bind_some, hcomma,
        hlater, Option.map_some]

/-- A block reads what its items read, in their order. -/
theorem reads_block (hopen : isSpace opening = false) (hclose : Closes close) {before : Text}
    (hbefore : ∀ d ∈ before, isSpace d) (hgap : ∀ d ∈ gap, isSpace d)
    (h : List.Forall₂ (Reads item) texts as) (hne : as ≠ []) :
    Reads (block item opening close)
      (before ++ [opening] ++ Text.join "," texts ++ gap ++ [close]) as := by
  intro rest _
  have htexts : texts ≠ [] := by
    rintro rfl
    cases h
    exact hne rfl
  have hshape : before ++ [opening] ++ Text.join "," texts ++ gap ++ [close] ++ rest =
      before ++ opening :: (Text.join "," texts ++ (gap ++ close :: rest)) := by simp
  have hlength : texts.length ≤ (Text.join "," texts ++ (gap ++ close :: rest)).length := by
    have hjoin := length_le_join texts
    simp only [List.length_append, List.length_cons]
    omega
  rw [hshape, block, after?_eq hbefore hopen, Option.bind_eq_bind, Option.bind_some]
  simp only [items_eq hclose hgap h htexts hlength]

theorem reads_block_nil (hopen : isSpace opening = false) (hclose : Closes close)
    (hitem : ∀ rest, item (close :: rest) = none) :
    Reads (block item opening close) [opening, close] [] := by
  intro rest _
  have hopening : after? opening (opening :: close :: rest) = some (close :: rest) :=
    after?_eq (List.forall_mem_nil _) hopen
  have hend : after? close (close :: rest) = some rest :=
    after?_eq (List.forall_mem_nil _) hclose.space
  simp only [block, List.cons_append, List.nil_append, hopening, Option.bind_eq_bind,
    Option.bind_some, List.length_cons, items, hitem, Option.bind_none, hend, Option.map_some]

theorem listing?_eq {t : Text} {entries : List (Entries Value)} (h : Reads listing t entries)
    (hgap : ∀ d ∈ gap, isSpace d) : listing? (t ++ gap) = some entries := by
  rw [listing?, h gap (stops_of_isSpace hgap)]
  exact if_pos (List.all_eq_true.mpr hgap)

end

end SceneBook.JsonReading
