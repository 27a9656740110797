import SceneBook.Proofs.Text.Lines
import SceneBook.Text.Hex

/-!
# String literals of a script

How a module script reads a literal between single quotes: character by character up to the first
quote that is not escaped, with its value in 16-bit units. A text that stands in a literal as it is
has itself as the value exactly if nothing in it is a quote, a backslash or a line break, as every
escape has fewer units than it is written with.
-/

namespace SceneBook

/-- The 16-bit units of a code point; above `0xFFFF` there are two. -/
def CodePoint.units (c : CodePoint) : List Nat :=
  if c.code < 0x10000 then [c.code]
  else [0xD800 + (c.code - 0x10000) / 0x400, 0xDC00 + (c.code - 0x10000) % 0x400]

private theorem CodePoint.length_units (c : CodePoint) :
    1 ≤ c.units.length ∧ c.units.length ≤ 2 := by
  unfold units
  split <;> simp

namespace Text

def units (t : Text) : List Nat := t.flatMap CodePoint.units

private theorem units_append (t u : Text) :
    (t ++ u).units = t.units ++ u.units := List.flatMap_append

private theorem units_cons (c : CodePoint) (t : Text) : units (c :: t) = c.units ++ t.units := rfl

private theorem length_le_units (t : Text) : t.length ≤ t.units.length := by
  induction t with
  | nil => simp
  | cons c rest ih =>
    have hc := c.length_units
    simp only [units_cons, List.length_cons, List.length_append]
    omega

private theorem length_units_take_drop (n : Nat) (t : Text) :
    t.units.length = (units (t.take n)).length + (units (t.drop n)).length := by
  rw [← List.length_append, ← units_append, List.take_append_drop]

end Text

namespace ScriptLiteral

open Text (lineFeed)

def quote : CodePoint := .scalar '\''

def backslash : CodePoint := .scalar '\\'

def carriageReturn : CodePoint := .scalar '\r'

def isLineBreak (c : CodePoint) : Bool := c = lineFeed || c = carriageReturn

/-- What a backslash continues a literal over: the line breaks and the two separators. -/
def isLineEnd (c : CodePoint) : Bool := isLineBreak c || c.code = 0x2028 || c.code = 0x2029

def isDigit (c : CodePoint) : Bool := 0x30 ≤ c.code && c.code ≤ 0x39

def letterUnit? : CodePoint → Option Nat
  | .scalar 'b' => some 0x08
  | .scalar 't' => some 0x09
  | .scalar 'n' => some 0x0A
  | .scalar 'v' => some 0x0B
  | .scalar 'f' => some 0x0C
  | .scalar 'r' => some 0x0D
  | _ => none

def hexDigit? : CodePoint → Option Nat
  | .scalar c => Text.hexValue? c
  | .surrogate _ => none

def hexNumber? : Text → Option Nat
  | [] => none
  | ds => ds.foldlM (fun n d => (hexDigit? d).map fun v => n * 16 + v) 0

def unitEscape? (width : Nat) (rest : Text) : Option (List Nat × Nat) :=
  if rest.length < width then none
  else (hexNumber? (rest.take width)).map fun n => ([n], width + 1)

def isClosing (c : CodePoint) : Bool := c = .scalar '\x7d'

/-- A code point by the number between braces; `rest` begins after the opening one. -/
def bracedEscape? (rest : Text) : Option (List Nat × Nat) :=
  if rest.any isClosing then
    ((hexNumber? (rest.takeWhile fun c => !isClosing c)).bind CodePoint.ofNat?).map fun p =>
      (p.units, (rest.takeWhile fun c => !isClosing c).length + 3)
  else none

/-- The units that an escape stands for, and how many code points it has after its backslash. -/
def escape? : Text → Option (List Nat × Nat)
  | [] => none
  | c :: rest =>
    if c = .scalar 'x' then unitEscape? 2 rest
    else if c = .scalar 'u' then
      if rest.head? = some (.scalar '\x7b') then bracedEscape? rest.tail else unitEscape? 4 rest
    else if isDigit c then
      if c = .scalar '0' && !rest.head?.any isDigit then some ([0], 1) else none
    else if c = carriageReturn && rest.head? = some lineFeed then some ([], 2)
    else if isLineEnd c then some ([], 1)
    else match letterUnit? c with
      | some n => some ([n], 1)
      | none => some (c.units, 1)

/-- The value of a literal and what follows it, from after the opening quote. Where a character that
is barred stands as it is, there is none. -/
def scan (barred : CodePoint → Bool) (t : Text) : Option (List Nat × Text) :=
  match t with
  | [] => none
  | c :: rest =>
    if c = quote then some ([], rest)
    else if c = backslash then
      match escape? rest with
      | none => none
      | some (here, n) => (scan barred (rest.drop n)).map fun later => (here ++ later.1, later.2)
    else if barred c then none
    else (scan barred rest).map fun later => (c.units ++ later.1, later.2)
termination_by t.length

/-- The whole text is one literal of a script, and the value is what the literal stands for. -/
def Spells (literal value : Text) : Prop :=
  ∃ body, literal = quote :: body ∧ scan isLineBreak body = some (value.units, [])

structure IsPlain (barred : CodePoint → Bool) (c : CodePoint) : Prop where
  ne_quote : c ≠ quote
  ne_backslash : c ≠ backslash
  not_barred : barred c = false

variable {barred : CodePoint → Bool} {t rest : Text} {value here : List Nat} {n : Nat}

theorem isLineBreak_eq_false_iff {c : CodePoint} :
    isLineBreak c = false ↔ c ≠ lineFeed ∧ c ≠ carriageReturn := by
  simp [isLineBreak]

private theorem length_unitEscape? {width : Nat} (h : unitEscape? width rest = some (here, n)) :
    here.length = 1 ∧ n = width + 1 := by
  unfold unitEscape? at h
  split at h
  · cases h
  · obtain ⟨m, _, hm⟩ := Option.map_eq_some_iff.mp h
    cases hm
    exact ⟨rfl, rfl⟩

private theorem length_bracedEscape? (h : bracedEscape? rest = some (here, n)) :
    here.length ≤ 2 ∧ 2 ≤ n := by
  unfold bracedEscape? at h
  split at h
  · obtain ⟨p, _, hp⟩ := Option.map_eq_some_iff.mp h
    cases hp
    exact ⟨p.length_units.2, by omega⟩
  · cases h

private theorem length_escape? (h : escape? t = some (here, n)) :
    here.length ≤ (Text.units (t.take n)).length := by
  cases t with
  | nil => cases h
  | cons c rest =>
    have htake (k : Nat) : min k (c :: rest).length ≤ (Text.units ((c :: rest).take k)).length := by
      rw [← List.length_take]
      exact Text.length_le_units _
    simp only [List.length_cons] at htake
    rw [escape?] at h
    split at h
    · obtain ⟨hlen, rfl⟩ := length_unitEscape? h
      have := htake (2 + 1)
      omega
    · split at h
      · split at h
        · next hbrace =>
          obtain ⟨hlen, hn⟩ := length_bracedEscape? h
          have hrest : rest ≠ [] := by
            intro hnil
            simp [hnil] at hbrace
          have := List.length_pos_iff.mpr hrest
          have := htake n
          omega
        · obtain ⟨hlen, rfl⟩ := length_unitEscape? h
          have := htake (4 + 1)
          omega
      · split at h
        · split at h
          · cases h
            exact htake 1
          · cases h
        · split at h
          · cases h
            exact Nat.zero_le _
          · split at h
            · cases h
              exact Nat.zero_le _
            · split at h
              · cases h
                exact htake 1
              · cases h
                simp [Text.units]

private theorem length_escape_add_drop (h : escape? t = some (here, n)) :
    here.length + (Text.units (t.drop n)).length ≤ t.units.length := by
  have hhere := length_escape? h
  have hsplit := Text.length_units_take_drop n t
  omega

example : escape? "u\x7b1F600\x7d!" = some ([0xD83D, 0xDE00], 8) := by decide

theorem scan_cons_of_isPlain {c : CodePoint} (hc : IsPlain barred c) (t : Text) :
    scan barred (c :: t) = (scan barred t).map fun later => (c.units ++ later.1, later.2) := by
  rw [scan, if_neg hc.ne_quote, if_neg hc.ne_backslash, if_neg (by simp [hc.not_barred])]

theorem scan_of_isPlain (ht : ∀ c ∈ t, IsPlain barred c) (rest : Text) :
    scan barred (t ++ quote :: rest) = some (t.units, rest) := by
  induction t with
  | nil => rw [List.nil_append, scan, if_pos rfl]; rfl
  | cons c t ih =>
    have hlater := ih fun d hd => ht d (by simp [hd])
    rw [List.cons_append, scan_cons_of_isPlain (ht c (by simp)), hlater]
    rfl

private theorem length_scan (h : scan barred t = some (value, rest)) :
    value.length + rest.units.length + 1 ≤ t.units.length := by
  fun_induction scan barred t generalizing value with
  | case1 => cases h
  | case2 more =>
    cases h
    have hquote := quote.length_units
    simp only [Text.units_cons, List.length_append, List.length_nil]
    omega
  | case3 => cases h
  | case4 more here n hescape _ ih =>
    obtain ⟨later, hlater, heq⟩ := Option.map_eq_some_iff.mp h
    cases heq
    have hmore := ih hlater
    have hhere := length_escape_add_drop hescape
    rw [Text.units_cons, List.length_append, List.length_append]
    omega
  | case5 => cases h
  | case6 c more _ _ _ ih =>
    obtain ⟨later, hlater, heq⟩ := Option.map_eq_some_iff.mp h
    cases heq
    have hmore := ih hlater
    simp only [Text.units_cons, List.length_append]
    omega

private theorem length_scan_backslash (h : scan barred (backslash :: t) = some (value, rest)) :
    value.length + rest.units.length + 1 ≤ t.units.length := by
  have hquote : backslash ≠ quote := by decide
  rw [scan, if_neg hquote, if_pos rfl] at h
  split at h
  · cases h
  · next here n hescape =>
    obtain ⟨later, hlater, heq⟩ := Option.map_eq_some_iff.mp h
    cases heq
    have hmore := length_scan hlater
    have hhere := length_escape_add_drop hescape
    rw [List.length_append]
    omega

private theorem isPlain_of_scan (h : scan barred (t ++ [quote]) = some (t.units, [])) :
    ∀ c ∈ t, IsPlain barred c := by
  induction t with
  | nil => simp
  | cons c t ih =>
    have hquote : c ≠ quote := by
      rintro rfl
      rw [List.cons_append, scan, if_pos rfl] at h
      simp at h
    -- The value would have all units of the text, although a backslash has none in it.
    have hbackslash : c ≠ backslash := by
      rintro rfl
      have hlength := length_scan_backslash (t := t ++ [quote]) h
      have hwhole : (Text.units (t ++ [quote])).length = (Text.units t).length + 1 := by
        rw [Text.units_append, List.length_append]
        rfl
      have hunits := backslash.length_units
      rw [Text.units_cons, List.length_append] at hlength
      omega
    rw [List.cons_append, scan, if_neg hquote, if_neg hbackslash] at h
    split at h
    · cases h
    · next hbarred =>
      obtain ⟨later, hlater, heq⟩ := Option.map_eq_some_iff.mp h
      rw [Text.units_cons, Prod.mk.injEq, List.append_cancel_left_eq] at heq
      have hrest : later = (Text.units t, []) := Prod.ext heq.1 heq.2
      intro d hd
      rcases List.mem_cons.mp hd with rfl | hd
      · exact ⟨hquote, hbackslash, by simpa using hbarred⟩
      · exact ih (hrest ▸ hlater) d hd

theorem spells_iff : Spells (quote :: t ++ [quote]) t ↔ ∀ c ∈ t, IsPlain isLineBreak c := by
  constructor
  · rintro ⟨body, hbody, hscan⟩
    cases hbody
    exact isPlain_of_scan hscan
  · intro ht
    exact ⟨t ++ [quote], rfl, scan_of_isPlain ht []⟩

end ScriptLiteral

end SceneBook
