import SceneBook.Proofs.Text.ScriptLiteral
import SceneBook.Text.JsonString

/-!
# String literals of JSON

How a JSON string is read: character by character up to the first quote that is not escaped, with
its value in code points. Two escapes that spell the halves of a pair are one code point. The
spelling in ASCII is read as the text that it spells, unless there is a lone surrogate in the text.
-/

namespace SceneBook.JsonLiteral

open ScriptLiteral (backslash hexDigit? hexNumber?)

def quote : CodePoint := .scalar '"'

def letterPoint? : CodePoint → Option CodePoint
  | .scalar '"' => some (.scalar '"')
  | .scalar '\\' => some (.scalar '\\')
  | .scalar '/' => some (.scalar '/')
  | .scalar 'b' => some (.scalar '\x08')
  | .scalar 'f' => some (.scalar '\x0c')
  | .scalar 'n' => some (.scalar '\n')
  | .scalar 'r' => some (.scalar '\r')
  | .scalar 't' => some (.scalar '\t')
  | _ => none

/-- The 16-bit unit that four digits at the beginning of a text spell. -/
def unit? (t : Text) : Option Nat := if t.length < 4 then none else hexNumber? (t.take 4)

def isHighHalf (n : Nat) : Bool := 0xD800 ≤ n && n < 0xDC00

def isLowHalf (n : Nat) : Bool := 0xDC00 ≤ n && n < 0xE000

/-- The second half of a pair, where a text begins with its escape. -/
def lowHalf? (t : Text) : Option Nat := ((Text.dropPrefix? "\\u" t).bind unit?).filter isLowHalf

/-- The code point of a number that is escaped, and how many code points the escape has after its
backslash; `rest` begins with the digits. -/
def numberPoint? (rest : Text) : Option (CodePoint × Nat) :=
  match unit? rest with
  | none => none
  | some n =>
    match (if isHighHalf n then lowHalf? (rest.drop 4) else none) with
    | some low =>
      (CodePoint.ofNat? (0x10000 + (n - 0xD800) * 0x400 + (low - 0xDC00))).map fun p => (p, 11)
    | none => (CodePoint.ofNat? n).map fun p => (p, 5)

/-- The code point that an escape stands for, and how many it has after its backslash. -/
def escape? : Text → Option (CodePoint × Nat)
  | [] => none
  | c :: rest =>
    if c = .scalar 'u' then numberPoint? rest else (letterPoint? c).map fun p => (p, 1)

/-- The value of a literal and what follows it, from after the opening quote. Controls may not stand
in it as they are. -/
def scan (t : Text) : Option (Text × Text) :=
  match t with
  | [] => none
  | c :: rest =>
    if c = quote then some ([], rest)
    else if c = backslash then
      match escape? rest with
      | none => none
      | some (p, n) => (scan (rest.drop n)).map fun later => (p :: later.1, later.2)
    else if c.code < 0x20 then none
    else (scan rest).map fun later => (c :: later.1, later.2)
termination_by t.length

/-- The whole text is one literal, and the value is what the literal stands for. -/
def Spells (literal value : Text) : Prop :=
  ∃ body, literal = quote :: body ∧ scan body = some (value, [])

variable {rest : Text} {n : Nat}

theorem hexDigit?_hexDigit : ∀ k < 16, hexDigit? (Text.hexDigit k) = some k := by decide

private theorem hex_four (n : Nat) : Text.hex 4 n =
    [Text.hexDigit (n / 4096 % 16), Text.hexDigit (n / 256 % 16), Text.hexDigit (n / 16 % 16),
      Text.hexDigit (n % 16)] := by
  simp [Text.hex, List.range_succ]

private theorem length_hex_four (n : Nat) : (Text.hex 4 n).length = 4 := by
  rw [hex_four]
  rfl

private theorem hexNumber?_hex (hn : n < 0x10000) : hexNumber? (Text.hex 4 n) = some n := by
  have hdigit (k : Nat) : hexDigit? (Text.hexDigit (k % 16)) = some (k % 16) :=
    hexDigit?_hexDigit (k % 16) (Nat.mod_lt k (by decide))
  have hvalue : (((0 * 16 + n / 4096 % 16) * 16 + n / 256 % 16) * 16 + n / 16 % 16) * 16 + n % 16 =
      n := by
    omega
  rw [hex_four]
  change List.foldlM _ 0 _ = some n
  simp only [List.foldlM_cons, List.foldlM_nil, hdigit, Option.map_some, Option.bind_eq_bind,
    Option.bind_some, Option.pure_def, hvalue]

private theorem unit?_hex (hn : n < 0x10000) (rest : Text) :
    unit? (Text.hex 4 n ++ rest) = some n := by
  have hlong : ¬ (Text.hex 4 n ++ rest).length < 4 := by
    rw [List.length_append, length_hex_four]
    omega
  rw [unit?, if_neg hlong, List.take_left' (length_hex_four n), hexNumber?_hex hn]

private theorem lowHalf?_escape (hn : n < 0x10000) (hlow : isLowHalf n = true) (rest : Text) :
    lowHalf? (Text.unitEscape n ++ rest) = some n := by
  have hprefix : Text.dropPrefix? "\\u" (Text.unitEscape n ++ rest) =
      some (Text.hex 4 n ++ rest) := by
    rw [Text.dropPrefix?_eq_some_iff, Text.unitEscape, List.append_assoc]
  rw [lowHalf?, hprefix, Option.bind_some, unit?_hex hn, Option.filter_some, if_pos hlow]

variable {a : Char}

theorem toNat_lt (a : Char) : a.toNat < 0xD800 ∨ 0xDFFF < a.toNat ∧ a.toNat < 0x110000 :=
  a.valid

private theorem ofNat?_toNat (a : Char) : CodePoint.ofNat? a.toNat = some (.scalar a) := by
  have hvalid := toNat_lt a
  have hno : ¬ (0xD800 ≤ a.toNat ∧ a.toNat < 0xE000) := by omega
  have hlt : a.toNat < 0x110000 := by omega
  rw [CodePoint.ofNat?, dif_neg hno, if_pos hlt, Char.ofNat_toNat]

private theorem numberPoint?_unit (ha : a.toNat < 0x10000) (rest : Text) :
    numberPoint? (Text.hex 4 a.toNat ++ rest) = some (.scalar a, 5) := by
  have hhigh : isHighHalf a.toNat = false := by
    have hvalid := toNat_lt a
    simp [isHighHalf]
    omega
  rw [numberPoint?, unit?_hex ha]
  simp [hhigh, ofNat?_toNat]

private theorem numberPoint?_halves {high low : Nat} (hhigh : isHighHalf high = true)
    (hlow : isLowHalf low = true) (rest : Text) :
    numberPoint? (Text.hex 4 high ++ (Text.unitEscape low ++ rest)) =
      (CodePoint.ofNat? (0x10000 + (high - 0xD800) * 0x400 + (low - 0xDC00))).map
        fun p => (p, 11) := by
  have hhigh' : high < 0x10000 := by
    simp only [isHighHalf, Bool.and_eq_true, decide_eq_true_eq] at hhigh
    omega
  have hlow' : low < 0x10000 := by
    simp only [isLowHalf, Bool.and_eq_true, decide_eq_true_eq] at hlow
    omega
  rw [numberPoint?, unit?_hex hhigh']
  simp only [hhigh, if_true, List.drop_left' (length_hex_four high), lowHalf?_escape hlow' hlow]

private theorem numberPoint?_pair (ha : 0x10000 ≤ a.toNat) (rest : Text) :
    numberPoint? (Text.hex 4 (0xD800 + (a.toNat - 0x10000) / 0x400) ++
      (Text.unitEscape (0xDC00 + (a.toNat - 0x10000) % 0x400) ++ rest)) = some (.scalar a, 11) := by
  have hvalid := toNat_lt a
  have hhigh : isHighHalf (0xD800 + (a.toNat - 0x10000) / 0x400) = true := by
    simp only [isHighHalf, Bool.and_eq_true, decide_eq_true_eq]
    omega
  have hlow : isLowHalf (0xDC00 + (a.toNat - 0x10000) % 0x400) = true := by
    simp only [isLowHalf, Bool.and_eq_true, decide_eq_true_eq]
    omega
  have hvalue : 0x10000 + (0xD800 + (a.toNat - 0x10000) / 0x400 - 0xD800) * 0x400 +
      (0xDC00 + (a.toNat - 0x10000) % 0x400 - 0xDC00) = a.toNat := by
    omega
  rw [numberPoint?_halves hhigh hlow, hvalue, ofNat?_toNat]
  rfl

private theorem scan_backslash {t : Text} {c : CodePoint} (h : escape? t = some (c, n)) :
    scan (backslash :: t) = (scan (t.drop n)).map fun later => (c :: later.1, later.2) := by
  have hquote : backslash ≠ quote := by decide
  rw [scan, if_neg hquote, if_pos rfl, h]

theorem scan_plain {c : CodePoint} (hquote : c ≠ quote) (hbackslash : c ≠ backslash)
    (hcode : 0x20 ≤ c.code) (rest : Text) :
    scan (c :: rest) = (scan rest).map fun later => (c :: later.1, later.2) := by
  rw [scan, if_neg hquote, if_neg hbackslash, if_neg (Nat.not_lt.mpr hcode)]

private theorem scan_number {c : CodePoint} {digits : Text}
    (h : numberPoint? (digits ++ rest) = some (c, digits.length + 1)) :
    scan ("\\u" ++ digits ++ rest) = (scan rest).map fun later => (c :: later.1, later.2) := by
  have hescape : escape? (.scalar 'u' :: (digits ++ rest)) = some (c, digits.length + 1) := by
    rw [escape?, if_pos rfl, h]
  have hscan := scan_backslash hescape
  rw [List.drop_succ_cons, List.drop_left' rfl] at hscan
  exact hscan

/-- Whether a code point is a printable ASCII character. -/
def IsPrintable (c : CodePoint) : Prop := 0x20 ≤ c.code ∧ c.code < 0x7F

instance (c : CodePoint) : Decidable (IsPrintable c) :=
  inferInstanceAs (Decidable (0x20 ≤ c.code ∧ c.code < 0x7F))

inductive Spelling (c : CodePoint) : Text → Prop
  | letter {d : CodePoint} (hne : d ≠ .scalar 'u') (hd : letterPoint? d = some c) :
    Spelling c [backslash, d]
  | plain (hquote : c ≠ quote) (hbackslash : c ≠ backslash)
    (hprintable : IsPrintable c) : Spelling c [c]
  | unit (hc : c.code < 0x10000) : Spelling c (Text.unitEscape c.code)
  | pair (hc : 0x10000 ≤ c.code) :
    Spelling c (Text.unitEscape (0xD800 + (c.code - 0x10000) / 0x400) ++
      Text.unitEscape (0xDC00 + (c.code - 0x10000) % 0x400))

theorem spelling_shortEscape {c : CodePoint} {t : Text} (h : Text.shortEscape? c = some t) :
    Spelling c t := by
  unfold Text.shortEscape? at h
  split at h <;> cases h
  all_goals exact .letter (by decide) rfl

private theorem spelling_asciiPoint (c : CodePoint) : Spelling c (Text.asciiPoint c) := by
  unfold Text.asciiPoint
  split
  · next t hshort => exact spelling_shortEscape hshort
  · next hshort =>
    have hquote : c ≠ quote := by
      rintro rfl
      cases hshort
    have hbackslash : c ≠ backslash := by
      rintro rfl
      cases hshort
    dsimp only
    split_ifs with hprintable hunit
    · exact .plain hquote hbackslash hprintable
    · exact .unit hunit
    · exact .pair (Nat.not_lt.mp hunit)

theorem Spelling.scan_append {a : Char} {t : Text} (h : Spelling (.scalar a) t) (rest : Text) :
    scan (t ++ rest) = (scan rest).map fun later => (.scalar a :: later.1, later.2) := by
  cases h with
  | @letter d hne hd =>
    have hescape : escape? (d :: rest) = some (.scalar a, 1) := by
      rw [escape?, if_neg hne, hd]
      rfl
    exact scan_backslash hescape
  | plain hquote hbackslash hprintable => exact scan_plain hquote hbackslash hprintable.1 rest
  | unit hunit =>
    apply scan_number
    rw [length_hex_four]
    exact numberPoint?_unit hunit rest
  | pair hpair =>
    have hnumber := numberPoint?_pair hpair rest
    rw [← List.append_assoc] at hnumber
    rw [Text.unitEscape, List.append_assoc ("\\u" : Text)]
    apply scan_number
    rw [List.length_append, Text.unitEscape, List.length_append, length_hex_four, length_hex_four]
    exact hnumber

/-- The spelling of a text in ASCII is one literal, and stands for the text. -/
theorem spells_asciiJson {t : Text} (h : ∀ c ∈ t, c.isSurrogate = false) :
    Spells t.asciiJson t := by
  refine ⟨t.spell Text.asciiPoint ++ [quote], rfl, ?_⟩
  induction t with
  | nil => rw [Text.spell, List.flatMap_nil, List.nil_append, scan, if_pos rfl]
  | cons c rest ih =>
    obtain ⟨hc, hrest⟩ := List.forall_mem_cons.mp h
    cases c with
    | surrogate s => cases hc
    | scalar a =>
      rw [Text.spell, List.flatMap_cons, List.append_assoc,
        (spelling_asciiPoint (.scalar a)).scan_append, ← Text.spell, ih hrest]
      rfl

private theorem isPrintable_unitEscape (n : Nat) : ∀ c ∈ Text.unitEscape n, IsPrintable c := by
  have hopen : ∀ c ∈ ("\\u" : Text), IsPrintable c := by decide
  have hdigit : ∀ k < 16, IsPrintable (Text.hexDigit k) := by decide
  intro c hc
  rcases List.mem_append.mp hc with hc | hc
  · exact hopen c hc
  · obtain ⟨i, -, rfl⟩ := List.mem_map.mp hc
    exact hdigit _ (Nat.mod_lt _ (by decide))

private theorem isPrintable_of_letterPoint? {c d : CodePoint} (h : letterPoint? d = some c) :
    IsPrintable d := by
  unfold letterPoint? at h
  split at h
  case h_9 => cases h
  all_goals decide

private theorem Spelling.isPrintable {c : CodePoint} {t : Text} (h : Spelling c t) :
    ∀ d ∈ t, IsPrintable d := by
  cases h with
  | letter hne hd =>
    have hbackslash : IsPrintable backslash := by decide
    simpa using ⟨hbackslash, isPrintable_of_letterPoint? hd⟩
  | plain hquote hbackslash hprintable => exact List.forall_mem_singleton.mpr hprintable
  | unit hunit => exact isPrintable_unitEscape c.code
  | pair hpair =>
    intro d hd
    rcases List.mem_append.mp hd with hd | hd
    · exact isPrintable_unitEscape _ d hd
    · exact isPrintable_unitEscape _ d hd

/-- The spelling in ASCII has no other character than printable ones. -/
theorem isPrintable_asciiJson (t : Text) : ∀ c ∈ t.asciiJson, IsPrintable c := by
  have hquote : IsPrintable quote := by decide
  intro c hc
  rcases List.mem_cons.mp hc with rfl | hc
  · exact hquote
  · rcases List.mem_append.mp hc with hc | hc
    · obtain ⟨d, -, hc⟩ := List.mem_flatMap.mp hc
      exact (spelling_asciiPoint d).isPrintable c hc
    · rw [List.mem_singleton.mp hc]
      exact hquote

end SceneBook.JsonLiteral
