import Mathlib.Data.List.TakeDrop
import TokenDump.Json.Parser

/-! # Printed JSON read back

The printed form of a value is read as that value, as long as its numbers are spelled as numbers
and its keys stand for texts. -/
namespace TokenDump.Json

/-- One digit or more. -/
def Digits (cs : List Char) : Prop := cs ≠ [] ∧ ∀ c ∈ cs, c.isDigit = true

/-- Of the integer parts only zero starts with a zero. -/
inductive Whole : List Char → Prop
  | zero : Whole ['0']
  | digits {cs : List Char} (digits : Digits cs) (head : cs.head? ≠ some '0') : Whole cs

inductive Fraction : List Char → Prop
  | none : Fraction []
  | digits {cs : List Char} (digits : Digits cs) : Fraction ('.' :: cs)

inductive Exponent : List Char → Prop
  | none : Exponent []
  | digits {e : Char} {sign cs : List Char} (mark : e = 'e' ∨ e = 'E')
      (signed : sign = [] ∨ sign = ['+'] ∨ sign = ['-']) (digits : Digits cs) :
      Exponent (e :: (sign ++ cs))

/-- The spellings of numbers. -/
inductive Numeral : List Char → Prop
  | intro {sign whole fraction exponent : List Char} (signed : sign = [] ∨ sign = ['-'])
      (isWhole : Whole whole) (isFraction : Fraction fraction) (isExponent : Exponent exponent) :
      Numeral (sign ++ whole ++ fraction ++ exponent)

/-- Values whose numbers are spelled as numbers and whose keys stand for texts. -/
inductive Legible : Value → Prop
  | null : Legible .null
  | boolean (b : Bool) : Legible (.boolean b)
  | number {spelling : String} (numeral : Numeral spelling.toList) : Legible (.number spelling)
  | string (content : Literal) : Legible (.string content)
  | array {vs : List Value} (each : ∀ v ∈ vs, Legible v) : Legible (.array vs)
  | record {fields : List (String × Value)} (each : ∀ f ∈ fields, Legible f.2) :
      Legible (.record fields)

/-- Values whose numbers are counts and whose strings, keys included, stand for texts. -/
inductive Plain : Value → Prop
  | null : Plain .null
  | boolean (b : Bool) : Plain (.boolean b)
  | ofNat (n : Nat) : Plain (.ofNat n)
  | ofString (s : String) : Plain (.ofString s)
  | array {vs : List Value} (each : ∀ v ∈ vs, Plain v) : Plain (.array vs)
  | record {fields : List (String × Value)} (each : ∀ f ∈ fields, Plain f.2) :
      Plain (.record fields)

/-- A field as a member of an object. -/
def member (field : String × Value) : Literal × Value := (.text field.1, field.2)

theorem record_eq (fields : List (String × Value)) :
    Value.record fields = .object (fields.map member) := rfl

/-- What may stand behind a value: nothing that a number could go on with. -/
def Closing (rest : List Char) : Prop := ∀ c ∈ rest.head?, c = ',' ∨ c = ']' ∨ c = '\x7d'

variable {c : Char} {cs rest : List Char} {u : Piece} {us : List Piece} {v : Value}
  {vs : List Value} {steps : Nat}

/-! ## Strings -/

/-- The piece stands for this one character. -/
def Piece.Spells (u : Piece) (c : Char) : Prop :=
  u = .char c ∨ u = .code c.toNat ∧ c.toNat < 0x20

theorem characters?_cons (h : u.Spells c) :
    characters? (u :: us) = (characters? us).map (c :: ·) := by
  rcases h with rfl | ⟨rfl, hc⟩
  · rw [characters?]
  · have hlow : ¬ 0xD800 ≤ c.toNat := by omega
    have hhigh : ¬ 0xDC00 ≤ c.toNat := by omega
    rcases us with _ | ⟨_ | m, us⟩
    all_goals simp [characters?, hlow, hhigh]

theorem codeUnit?_digitChar : ∀ n < 0x20,
    codeUnit? '0' '0' (Nat.digitChar (n / 16)) (Nat.digitChar (n % 16)) = some n := by
  decide

theorem pieces_escapeChar (c : Char) : ∃ u : Piece, u.Spells c ∧ ∀ rest,
    pieces (escapeChar c ++ rest) = (pieces rest).map fun (us, rest) => (u :: us, rest) := by
  unfold escapeChar
  split
  case h_8 hquote hbackslash _ _ _ _ _ =>
    split
    case isTrue h =>
      refine ⟨.code c.toNat, .inr ⟨rfl, h⟩, fun rest => ?_⟩
      simp only [List.cons_append, List.nil_append, pieces, codeUnit?_digitChar _ h]
      cases pieces rest <;> rfl
    case isFalse h =>
      refine ⟨.char c, .inl rfl, fun rest => ?_⟩
      rw [List.singleton_append, pieces]
      · cases pieces rest <;> simp_all
      all_goals simp_all
  all_goals
    refine ⟨.char _, .inl rfl, fun rest => ?_⟩
    cases h : pieces rest <;> simp [pieces, escaped?, h]

theorem pieces_flatMap (cs rest : List Char) : ∃ us,
    pieces (cs.flatMap escapeChar ++ '"' :: rest) = some (us, rest) ∧ characters? us = some cs := by
  induction cs with
  | nil => exact ⟨[], by rw [List.flatMap_nil, List.nil_append, pieces], by rw [characters?]⟩
  | cons c cs ih =>
    obtain ⟨us, hpieces, hus⟩ := ih
    obtain ⟨u, hu, hc⟩ := pieces_escapeChar c
    refine ⟨u :: us, ?_, ?_⟩
    · rw [List.flatMap_cons, List.append_assoc, hc, hpieces]
      rfl
    · rw [characters?_cons hu, hus]
      rfl

/-- A string literal, behind its opening quote, is read up to its closing one. -/
theorem literal_flatMap (s : String) (rest : List Char) :
    literal (s.toList.flatMap escapeChar ++ '"' :: rest) = some (.text s, rest) := by
  obtain ⟨us, hpieces, hus⟩ := pieces_flatMap s.toList rest
  simp only [literal, hpieces, hus, Option.bind_eq_bind, Option.bind_some, String.ofList_toList]
  rfl

/-! ## Numbers -/

theorem isDigit_toString (n : Nat) : ∀ c ∈ (toString n).toList, c.isDigit = true := by
  intro c hc
  rw [Nat.toString_eq_repr, Nat.toList_repr] at hc
  exact Nat.isDigit_of_mem_toDigits (by omega) (by omega) hc

theorem toString_ne_nil (n : Nat) : (toString n).toList ≠ [] := by
  rw [Nat.toString_eq_repr, Nat.toList_repr]
  exact Nat.toDigits_ne_nil

/-- Only zero is spelled with a leading zero. -/
theorem toDigits_head (n : Nat) (h : 0 < n) : (Nat.toDigits 10 n).head? ≠ some '0' := by
  induction n using Nat.strongRecOn with
  | ind n ih =>
    by_cases hn : n < 10
    · rw [Nat.toDigits_of_lt_base hn]
      have : ∀ d < 10, 0 < d → Nat.digitChar d ≠ '0' := by decide
      simpa using this n hn h
    · rw [Nat.toDigits_of_base_le (by omega) (by omega), List.head?_append]
      have hq := ih (n / 10) (by omega) (by omega)
      obtain ⟨d, ds, hd⟩ := List.exists_cons_of_ne_nil (Nat.toDigits_ne_nil (b := 10) (n := n / 10))
      simpa [hd] using hq

/-- What may stand behind digits that are all there are. -/
def NoDigit (rest : List Char) : Prop := ∀ c ∈ rest.head?, c.isDigit = false

theorem Closing.noDigit (h : Closing rest) : NoDigit rest := by
  intro c hc
  rcases h c hc with rfl | rfl | rfl <;> decide

theorem noDigit_cons (h : c.isDigit = false) : NoDigit (c :: cs) := by
  intro d hd
  obtain rfl : c = d := by simpa using hd
  exact h

theorem digits_append (h : Digits cs) (hrest : NoDigit rest) :
    digits (cs ++ rest) = some (cs, rest) := by
  obtain ⟨hne, hcs⟩ := h
  have htail : rest.takeWhile Char.isDigit = [] ∧ rest.dropWhile Char.isDigit = rest := by
    cases rest with
    | nil => exact ⟨rfl, rfl⟩
    | cons c rest => simp [hrest c rfl]
  have htake : (cs ++ rest).takeWhile Char.isDigit = cs := by
    rw [List.takeWhile_append_of_pos hcs, htail.1, List.append_nil]
  have hdrop : (cs ++ rest).dropWhile Char.isDigit = rest := by
    rw [List.dropWhile_append_of_pos hcs, htail.2]
  simp [digits, List.span_eq_takeWhile_dropWhile, htake, hdrop, hne]

theorem Whole.integerPart (h : Whole cs) (hrest : NoDigit rest) :
    integerPart (cs ++ rest) = some (cs, rest) := by
  cases h with
  | zero =>
    cases rest with
    | nil => rfl
    | cons c rest => simp [Json.integerPart, hrest c rfl]
  | digits digits head =>
    rw [Json.integerPart, digits_append digits hrest]
    rintro r hr
    obtain ⟨c, cs, rfl⟩ := List.exists_cons_of_ne_nil digits.1
    simp_all

theorem Fraction.fractionPart (h : Fraction cs) (hrest : NoDigit rest)
    (hpoint : rest.head? ≠ some '.') : fractionPart (cs ++ rest) = some (cs, rest) := by
  cases h with
  | none =>
    cases rest with
    | nil => rfl
    | cons c rest => simp_all [Json.fractionPart]
  | digits digits => simp [Json.fractionPart, digits_append digits hrest]

theorem Exponent.exponentPart (h : Exponent cs) (hrest : Closing rest) :
    exponentPart (cs ++ rest) = some (cs, rest) := by
  cases h with
  | none =>
    cases rest with
    | nil => rfl
    | cons c rest => rcases hrest c rfl with rfl | rfl | rfl <;> rfl
  | @digits e sign ds mark signed digits =>
    have hdigits := digits_append digits hrest.noDigit
    obtain ⟨d, ds, rfl⟩ := List.exists_cons_of_ne_nil digits.1
    have hd := digits.2 d List.mem_cons_self
    have hsign : d ≠ '+' ∧ d ≠ '-' := by
      constructor
      all_goals
        rintro rfl
        revert hd
        decide
    rw [List.cons_append] at hdigits
    rcases mark with rfl | rfl <;> rcases signed with rfl | rfl | rfl <;>
      simp [Json.exponentPart, hdigits, hsign]

/-- What may stand behind an integer part, and behind a fraction. -/
theorem Exponent.head (h : Exponent cs) (hrest : Closing rest) :
    NoDigit (cs ++ rest) ∧ (cs ++ rest).head? ≠ some '.' := by
  cases h with
  | none =>
    refine ⟨hrest.noDigit, fun hpoint => ?_⟩
    rcases hrest '.' hpoint with h | h | h <;> simp at h
  | digits mark signed digits =>
    rcases mark with rfl | rfl <;> exact ⟨noDigit_cons (by decide), by simp⟩

theorem Fraction.head (h : Fraction cs) (hrest : NoDigit rest) : NoDigit (cs ++ rest) := by
  cases h with
  | none => exact hrest
  | digits digits => exact noDigit_cons (by decide)

theorem Whole.head (h : Whole cs) : ∃ c ds, cs = c :: ds ∧ c.isDigit = true := by
  cases h with
  | zero => exact ⟨_, _, rfl, by decide⟩
  | digits digits head =>
    obtain ⟨c, ds, rfl⟩ := List.exists_cons_of_ne_nil digits.1
    exact ⟨c, ds, rfl, digits.2 c List.mem_cons_self⟩

/-- A number begins with a digit or a minus sign. -/
theorem Numeral.head (h : Numeral cs) : ∃ c ds, cs = c :: ds ∧ (c.isDigit = true ∨ c = '-') := by
  obtain ⟨signed, isWhole, -, -⟩ := h
  obtain ⟨c, ds, rfl, hc⟩ := isWhole.head
  rcases signed with rfl | rfl
  · exact ⟨c, _, rfl, .inl hc⟩
  · exact ⟨'-', _, rfl, .inr rfl⟩

theorem Numeral.number (h : Numeral cs) (hrest : Closing rest) :
    number (cs ++ rest) = some (cs, rest) := by
  obtain @⟨sign, whole, fraction, exponent, signed, isWhole, isFraction, isExponent⟩ := h
  obtain ⟨hexponent, hpoint⟩ := isExponent.head hrest
  have hinteger := isWhole.integerPart (isFraction.head hexponent)
  have hfraction := isFraction.fractionPart hexponent hpoint
  have hrest := isExponent.exponentPart hrest
  obtain ⟨c, ds, rfl, hc⟩ := isWhole.head
  have hminus : c ≠ '-' := by
    rintro rfl
    revert hc
    decide
  rcases signed with rfl | rfl
  · simp only [List.nil_append, List.append_assoc, List.cons_append] at hinteger ⊢
    simp [Json.number, hminus, hinteger, hfraction, hrest]
  · simp only [List.append_assoc, List.cons_append] at hinteger ⊢
    simp [Json.number, hinteger, hfraction, hrest]

theorem numeral_toString (n : Nat) : Numeral (toString n).toList := by
  have hwhole : Whole (toString n).toList := by
    rcases Nat.eq_zero_or_pos n with rfl | hn
    · exact (by decide : (toString 0).toList = ['0']) ▸ .zero
    · refine .digits ⟨toString_ne_nil n, isDigit_toString n⟩ ?_
      rw [Nat.toString_eq_repr, Nat.toList_repr]
      exact toDigits_head n hn
  simpa using Numeral.intro (.inl rfl) hwhole .none .none

/-- What else begins a value, or stands in front of one, begins no number. -/
theorem ne_of_begins (h : c.isDigit = true ∨ c = '-') : isBlank c = false ∧ c ≠ 'n' ∧ c ≠ 't' ∧
    c ≠ 'f' ∧ c ≠ '"' ∧ c ≠ '[' ∧ c ≠ ']' ∧ c ≠ '\x7b' := by
  rcases h with h | rfl
  · refine ⟨?_, ?_, ?_, ?_, ?_, ?_, ?_, ?_⟩
    · rw [← Bool.not_eq_true]
      intro hblank
      simp only [isBlank, Bool.or_eq_true, beq_iff_eq] at hblank
      rcases hblank with ((rfl | rfl) | rfl) | rfl <;> simp at h
    all_goals
      rintro rfl
      revert h
      decide
  · decide

theorem value_of_begins (h : c.isDigit = true ∨ c = '-') : value (steps + 1) (c :: cs) =
    (number (c :: cs)).map fun (spelling, rest) => (.number (String.ofList spelling), rest) := by
  obtain ⟨hblank, hn, ht, hf, hquote, hbracket, -, hbrace⟩ := ne_of_begins h
  rw [value, skipBlanks, List.dropWhile_cons, hblank]
  split <;> simp_all

/-! ## Values -/

theorem skipBlanks_cons (h : isBlank c = false) : skipBlanks (c :: cs) = c :: cs := by
  simp [skipBlanks, h]

/-- The printed form is read as the value, with at least as many steps as it has characters. -/
def Returns (v : Value) : Prop := ∀ steps rest, v.print.length ≤ steps → Closing rest →
  value steps (v.print ++ rest) = some (v, rest)

theorem returns_number {spelling : String} (h : Numeral spelling.toList) :
    Returns (.number spelling) := by
  intro steps rest hsteps hrest
  rw [Value.print] at hsteps ⊢
  have hnumber := h.number hrest
  obtain ⟨c, cs, hcs, hc⟩ := h.head
  rw [hcs] at hnumber hsteps ⊢
  obtain ⟨steps, rfl⟩ := Nat.exists_eq_succ_of_ne_zero (n := steps) (by simp at hsteps; omega)
  rw [List.cons_append] at hnumber ⊢
  rw [value_of_begins hc, hnumber, Option.map_some, ← hcs]
  exact congrArg (fun s => some (Value.number s, rest)) String.ofList_toList

theorem returns_string (content : Literal) : Returns (.string content) := by
  intro steps rest hsteps hrest
  obtain ⟨cs, hprint⟩ : ∃ cs, (Value.string content).print = '"' :: cs := by
    cases content <;> exact ⟨_, rfl⟩
  have hliteral : literal (cs ++ rest) = some (content, rest) := by
    cases content with
    | text s =>
      obtain rfl : s.toList.flatMap escapeChar ++ ['"'] = cs := List.cons.inj hprint |>.2
      simpa using literal_flatMap s rest
    | unpaired =>
      obtain rfl : "\\ud800\"".toList = cs := List.cons.inj hprint |>.2
      rfl
  rw [hprint] at hsteps ⊢
  obtain ⟨steps, rfl⟩ := Nat.exists_eq_succ_of_ne_zero (n := steps) (by simp at hsteps; omega)
  rw [value]
  simp [skipBlanks, isBlank, hliteral]

/-- No value begins with a blank, or with what closes a list. -/
theorem Legible.head (h : Legible v) :
    ∃ c cs, v.print = c :: cs ∧ isBlank c = false ∧ c ≠ ']' := by
  cases h with
  | null => exact ⟨_, _, rfl, rfl, by decide⟩
  | boolean b => cases b <;> exact ⟨_, _, rfl, rfl, by decide⟩
  | number numeral =>
    obtain ⟨c, cs, hcs, hc⟩ := numeral.head
    obtain ⟨hblank, -, -, -, -, -, hbracket, -⟩ := ne_of_begins hc
    exact ⟨c, cs, hcs, hblank, hbracket⟩
  | string content => cases content <;> exact ⟨_, _, rfl, rfl, by decide⟩
  | array each => exact ⟨_, _, by rw [Value.print], rfl, by decide⟩
  | record each => exact ⟨_, _, by rw [Value.record, Value.print], rfl, by decide⟩

theorem closing_cons (h : c = ',' ∨ c = ']' ∨ c = '\x7d') : Closing (c :: cs) := by
  intro d hd
  obtain rfl : c = d := by simpa using hd
  exact h

theorem items_printItems (h : ∀ v ∈ vs, Returns v) (hne : vs ≠ []) (steps : Nat)
    (rest : List Char) (hsteps : (printItems vs).length ≤ steps) :
    items steps (printItems vs ++ rest) = some (vs, rest) := by
  induction vs generalizing steps with
  | nil => exact absurd rfl hne
  | cons v vs ih =>
    obtain ⟨hv, hvs⟩ := List.forall_mem_cons.mp h
    cases vs with
    | nil =>
      simp only [printItems, List.length_append, List.length_singleton] at hsteps
      obtain ⟨steps, rfl⟩ := Nat.exists_eq_succ_of_ne_zero (n := steps) (by omega)
      have hvalue := hv steps (']' :: rest) (by omega) (closing_cons (by simp))
      simp [items, printItems, hvalue, skipBlanks, isBlank]
    | cons w vs =>
      simp only [printItems, List.length_append, List.length_cons] at hsteps
      obtain ⟨steps, rfl⟩ := Nat.exists_eq_succ_of_ne_zero (n := steps) (by omega)
      have hvalue := hv steps (',' :: (printItems (w :: vs) ++ rest)) (by omega)
        (closing_cons (by simp))
      have hmore := ih hvs (by simp) steps (by omega)
      simp [items, printItems, hvalue, skipBlanks, isBlank, hmore]

theorem returns_array (h : ∀ v ∈ vs, Returns v) (hlegible : ∀ v ∈ vs, Legible v) :
    Returns (.array vs) := by
  intro steps rest hsteps hrest
  rw [Value.print, List.length_cons] at hsteps
  obtain ⟨steps, rfl⟩ := Nat.exists_eq_succ_of_ne_zero (n := steps) (by omega)
  rw [Value.print, List.cons_append]
  cases vs with
  | nil => simp [value, printItems, skipBlanks, isBlank]
  | cons v vs =>
    have hitems := items_printItems h (by simp) steps rest (by omega)
    obtain ⟨c, cs, hcs, hblank, hbracket⟩ := (hlegible v List.mem_cons_self).head
    obtain ⟨cs, hfirst⟩ : ∃ cs, printItems (v :: vs) ++ rest = c :: cs := by
      cases vs <;> simp [printItems, hcs]
    rw [hfirst] at hitems ⊢
    rw [value, skipBlanks_cons (by decide)]
    simp [skipBlanks_cons hblank, hbracket, hitems]

variable {fields : List (String × Value)}

theorem members_printMembers (h : ∀ f ∈ fields, Returns f.2) (hne : fields ≠ []) (steps : Nat)
    (rest : List Char) (hsteps : (printMembers (fields.map member)).length ≤ steps) :
    members steps (printMembers (fields.map member) ++ rest) =
      some (fields.map member, rest) := by
  induction fields generalizing steps with
  | nil => exact absurd rfl hne
  | cons f fields ih =>
    obtain ⟨hf, hfields⟩ := List.forall_mem_cons.mp h
    cases fields with
    | nil =>
      simp only [List.map_cons, List.map_nil, member, printMembers, List.length_append,
        List.length_cons, List.length_nil] at hsteps
      obtain ⟨steps, rfl⟩ := Nat.exists_eq_succ_of_ne_zero (n := steps) (by omega)
      have hvalue := hf steps ('\x7d' :: rest) (by omega) (closing_cons (by simp))
      simp [members, member, printMembers, Literal.print, quote, literal_flatMap, hvalue,
        skipBlanks, isBlank]
    | cons g fields =>
      rw [List.map_cons] at ih hsteps ⊢
      rw [List.map_cons] at hsteps ⊢
      simp only [member, printMembers, List.length_append, List.length_cons] at hsteps
      obtain ⟨steps, rfl⟩ := Nat.exists_eq_succ_of_ne_zero (n := steps) (by omega)
      have hmore := ih hfields (by simp) steps (by simp only [member]; omega)
      have hvalue := hf steps (',' :: (printMembers (member g :: fields.map member) ++ rest))
        (by omega) (closing_cons (by simp))
      simp only [member] at hmore hvalue
      simp [members, member, printMembers, Literal.print, quote, literal_flatMap, hvalue,
        skipBlanks, isBlank, hmore]

theorem returns_record (h : ∀ f ∈ fields, Returns f.2) : Returns (.record fields) := by
  intro steps rest hsteps hrest
  rw [record_eq, Value.print, List.length_cons] at hsteps
  obtain ⟨steps, rfl⟩ := Nat.exists_eq_succ_of_ne_zero (n := steps) (by omega)
  rw [record_eq, Value.print, List.cons_append]
  cases fields with
  | nil => simp [value, printMembers, skipBlanks, isBlank]
  | cons f fields =>
    have hmembers := members_printMembers h (by simp) steps rest (by omega)
    obtain ⟨cs, hfirst⟩ : ∃ cs, printMembers ((f :: fields).map member) ++ rest = '"' :: cs := by
      cases fields <;> simp [member, printMembers, Literal.print, quote]
    rw [hfirst] at hmembers ⊢
    rw [value, skipBlanks_cons (by decide)]
    simp [skipBlanks_cons (c := '"') (by decide), hmembers]

theorem Legible.returns (h : Legible v) : Returns v := by
  induction h with
  | null =>
    intro steps rest hsteps hrest
    obtain ⟨steps, rfl⟩ := Nat.exists_eq_succ_of_ne_zero (n := steps)
      (by simp [Value.print] at hsteps; omega)
    simp [Value.print, value, skipBlanks, isBlank]
  | boolean b =>
    intro steps rest hsteps hrest
    obtain ⟨steps, rfl⟩ := Nat.exists_eq_succ_of_ne_zero (n := steps)
      (by cases b <;> simp [Value.print] at hsteps <;> omega)
    cases b <;> simp [Value.print, value, skipBlanks, isBlank]
  | number numeral => exact returns_number numeral
  | string content => exact returns_string content
  | array each ih => exact returns_array ih each
  | record each ih => exact returns_record ih

/-- The compact form of a legible value is read back as the value. -/
theorem Legible.parse?_compact (h : Legible v) : parse? v.compact = some v := by
  have hvalue := h.returns (2 * v.print.length + 2) [] (by omega) (by simp [Closing])
  have hlist : v.compact.toList = v.print := String.toList_ofList
  have hlength : v.compact.length = v.print.length := String.length_ofList
  rw [List.append_nil] at hvalue
  rw [parse?, hlist, hlength, hvalue]
  rfl

theorem Plain.legible (h : Plain v) : Legible v := by
  induction h with
  | null => exact .null
  | boolean b => exact .boolean b
  | ofNat n => exact .number (numeral_toString n)
  | ofString s => exact .string _
  | array each ih => exact .array ih
  | record each ih => exact .record ih

theorem Plain.parse?_compact (h : Plain v) : parse? v.compact = some v := h.legible.parse?_compact

/-! ## Control characters -/

/-- No character is a control character. -/
def Visible (cs : List Char) : Prop := ∀ c ∈ cs, 0x20 ≤ c.toNat

theorem visible_cons (hc : 0x20 ≤ c.toNat) (h : Visible cs) : Visible (c :: cs) :=
  List.forall_mem_cons.mpr ⟨hc, h⟩

theorem visible_append {ds : List Char} (h : Visible cs) (h' : Visible ds) :
    Visible (cs ++ ds) := by
  intro c hc
  rcases List.mem_append.mp hc with hc | hc
  · exact h c hc
  · exact h' c hc

theorem visible_digitChar : ∀ n < 16, 0x20 ≤ (Nat.digitChar n).toNat := by decide

theorem visible_escapeChar (c : Char) : Visible (escapeChar c) := by
  unfold escapeChar
  split
  case h_8 =>
    split
    case isTrue h =>
      have hhigh := visible_digitChar (c.toNat / 16) (by omega)
      have hlow := visible_digitChar (c.toNat % 16) (by omega)
      simpa [Visible] using ⟨hhigh, hlow⟩
    case isFalse h => simpa [Visible] using h
  all_goals simp [Visible]

theorem visible_print (content : String) : Visible (Literal.text content).print := by
  have hbody : Visible (content.toList.flatMap escapeChar) := by
    intro c hc
    obtain ⟨d, -, hd⟩ := List.mem_flatMap.mp hc
    exact visible_escapeChar d c hd
  exact visible_append (visible_cons (by decide) hbody) (by simp [Visible])

theorem visible_printItems (h : ∀ v ∈ vs, Visible v.print) : Visible (printItems vs) := by
  induction vs with
  | nil => simp [printItems, Visible]
  | cons v vs ih =>
    obtain ⟨hv, hvs⟩ := List.forall_mem_cons.mp h
    have hmore := ih hvs
    cases vs with
    | nil => exact visible_append hv hmore
    | cons w vs => exact visible_append hv (visible_cons (by decide) hmore)

theorem visible_printMembers (h : ∀ f ∈ fields, Visible f.2.print) :
    Visible (printMembers (fields.map member)) := by
  induction fields with
  | nil => simp [printMembers, Visible]
  | cons f fields ih =>
    obtain ⟨hf, hfields⟩ := List.forall_mem_cons.mp h
    have hmore := ih hfields
    have hfirst := visible_append (visible_print f.1) (visible_cons (c := ':') (by decide) hf)
    cases fields with
    | nil => exact visible_append hfirst hmore
    | cons g fields =>
      rw [List.map_cons, List.map_cons, printMembers]
      exact visible_append hfirst (visible_cons (by decide) hmore)

/-- Controls inside strings are escaped, and there are none elsewhere. -/
theorem Plain.visible (h : Plain v) : Visible v.print := by
  induction h with
  | null => simp [Value.print, Visible]
  | boolean b => cases b <;> simp [Value.print, Visible]
  | ofNat n =>
    intro c hc
    have hdigit := isDigit_toString n c hc
    have hbounds : 48 ≤ c.toNat ∧ c.toNat ≤ 57 := by
      simpa [Char.isDigit, UInt32.le_iff_toNat_le] using hdigit
    omega
  | ofString s => exact visible_print s
  | array each ih => exact visible_cons (by decide) (visible_printItems ih)
  | record each ih => exact visible_cons (by decide) (visible_printMembers ih)

end TokenDump.Json
