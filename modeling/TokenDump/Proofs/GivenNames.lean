import Mathlib
import TokenDump.Proofs.Encoding
import TokenDump.Settings.Basic

/-! # Names that users give

Names are compared in lower case, by the mapping of Unicode. That comes to the mapping of ASCII
letters alone, which is `String.toLower`: of the other characters only the Kelvin sign becomes an
ASCII text, and its letter occurs in no name. Nor does it matter to names which form a sigma takes
at the end of a word. -/
namespace TokenDump

namespace Unicode

/-- An ASCII character other than the letter of the Kelvin sign. Nothing outside ASCII becomes a text
of such characters in lower case. -/
def Exclusive (c : Char) : Prop := c.toNat < 0x80 ∧ c ≠ 'k'

instance (c : Char) : Decidable (Exclusive c) := inferInstanceAs (Decidable (_ ∧ _))

/-- All that a run becomes is made of characters outside ASCII, but for the Kelvin sign. -/
def RunOutside (run : Nat × Nat × Nat × Nat) : Prop :=
  let (first, last, _, image) := run
  0x80 ≤ image ∧ image + (last - first) < 0xD800 ∨
    0xDFFF < image ∧ image + (last - first) < 0x110000 ∨ last ≤ first ∧ image = 'k'.toNat

instance (run : Nat × Nat × Nat × Nat) : Decidable (RunOutside run) :=
  inferInstanceAs (Decidable (_ ∨ _))

theorem runsOutside : ∀ run ∈ lowercaseRuns, RunOutside run := by decide +kernel

theorem not_exclusive_of_run {run : Nat × Nat × Nat × Nat} (h : RunOutside run) {n : Nat}
    (hlow : run.1 ≤ n) (hhigh : n ≤ run.2.1) :
    ¬ Exclusive (Char.ofNat (run.2.2.2 + (n - run.1))) := by
  obtain ⟨first, last, step, image⟩ := run
  simp only at hlow hhigh ⊢
  rintro ⟨hascii, hk⟩
  rcases h with ⟨hpast, hbound⟩ | ⟨hpast, hbound⟩ | ⟨hone, rfl⟩
  · rw [Utf8.toNat_char (.inl (by omega))] at hascii
    omega
  · rw [Utf8.toNat_char (.inr (by omega))] at hascii
    omega
  · obtain rfl : n = first := by omega
    simp at hk

/-- What a character outside ASCII becomes in lower case is not made of such characters. -/
theorem exists_not_exclusive {c : Char} (h : 0x80 ≤ c.toNat) :
    ∃ d ∈ lowercase c, ¬ Exclusive d := by
  rw [lowercase, if_neg (by omega)]
  split
  · exact ⟨Char.ofNat 0x307, by simp, by decide⟩
  · split
    · rename_i first last step image hfind
      have hbounds := List.find?_some hfind
      simp only [Bool.and_eq_true, decide_eq_true_eq] at hbounds
      exact ⟨_, List.mem_singleton_self _,
        not_exclusive_of_run (runsOutside _ (List.mem_of_find?_eq_some hfind)) hbounds.1.1
          hbounds.1.2⟩
    · exact ⟨c, List.mem_singleton_self c, fun ⟨hascii, _⟩ => by omega⟩

theorem lowercase_of_ascii {c : Char} (h : c.toNat < 0x80) : lowercase c = [c.toLower] := by
  rw [lowercase, if_pos h]

theorem toNat_lt_of_isAlphanum {c : Char} (h : c.isAlphanum) : c.toNat < 0x80 := by
  simp only [Char.isAlphanum, Char.isAlpha, Char.isUpper, Char.isLower, Char.isDigit,
    Bool.or_eq_true, Bool.and_eq_true, decide_eq_true_eq, ge_iff_le, UInt32.le_iff_toNat_le,
    Char.toNat_val] at h
  have hz : 'z'.toNat < 0x80 := by decide
  have hZ : 'Z'.toNat < 0x80 := by decide
  have hnine : '9'.toNat < 0x80 := by decide
  omega

/-- No other character becomes a letter or digit of ASCII. -/
theorem isAlphanum_of_toLower {c : Char} (h : c.toLower.isAlphanum) : c.isAlphanum := by
  by_cases hupper : c.isUpper
  · simp [Char.isAlphanum, Char.isAlpha, hupper]
  · rwa [Char.toLower_eq_of_not_isUpper hupper] at h

end Unicode

open Unicode

variable {α : Type} {text : String} {names : List (String × α)} {a : α}

theorem toList_toLower (text : String) : text.toLower.toList = text.toList.map Char.toLower := by
  rw [String.toLower, String.toList_map]

theorem lowercased_of_ascii (h : ∀ c ∈ text.toList, c.toNat < 0x80) :
    lowercased text = text.toLower := by
  rw [lowercased, ← String.ofList_toList (s := text.toLower), toList_toLower]
  refine congrArg String.ofList ?_
  rw [List.flatMap_congr fun c hc => lowercase_of_ascii (h c hc), List.map_eq_flatMap]

/-- If a text has only exclusive characters in lower case, it is ASCII. -/
theorem ascii_of_lowercased (h : ∀ c ∈ (lowercased text).toList, Exclusive c) :
    ∀ c ∈ text.toList, c.toNat < 0x80 := by
  intro c hc
  by_contra hout
  obtain ⟨d, hd, hexclusive⟩ := exists_not_exclusive (c := c) (by omega)
  refine hexclusive (h d ?_)
  rw [lowercased, String.toList_ofList]
  exact List.mem_flatMap.mpr ⟨c, hc, hd⟩

/-- Names made of exclusive letters and digits of ASCII. -/
def AsciiNames (names : List (String × α)) : Prop :=
  ∀ entry ∈ names, ∀ c ∈ entry.1.toList, Exclusive c ∧ c.isAlphanum

/-- What becomes such a name has no other characters than letters and digits of ASCII. -/
theorem AsciiNames.isAlphanum (h : AsciiNames names) (hmem : (text.toLower, a) ∈ names) :
    ∀ c ∈ text.toList, c.isAlphanum := by
  intro c hc
  have hlower : c.toLower ∈ text.toLower.toList := by
    rw [toList_toLower]
    exact List.mem_map_of_mem hc
  exact isAlphanum_of_toLower (h _ hmem _ hlower).2

/-- Among such names the mapping of Unicode finds what the one of ASCII letters finds. -/
theorem AsciiNames.mem_iff (h : AsciiNames names) :
    (lowercased text, a) ∈ names ↔ (text.toLower, a) ∈ names := by
  constructor
  · intro hmem
    have hexclusive : ∀ c ∈ (lowercased text).toList, Exclusive c :=
      fun c hc => (h _ hmem c hc).1
    rwa [lowercased_of_ascii (ascii_of_lowercased hexclusive)] at hmem
  · intro hmem
    have hletters : ∀ c ∈ text.toList, c.isAlphanum := h.isAlphanum hmem
    rwa [lowercased_of_ascii fun c hc => toNat_lt_of_isAlphanum (hletters c hc)]

/-! ## The sigma at the end of a word

Which characters have case, and which are passed over where the end of a word is looked for, is left
open: it makes no difference here. -/

section FinalSigma

variable (cased ignorable : Char → Bool)

/-- The first character that is not passed over has case. -/
def caseFollows (cs : List Char) : Bool := (cs.dropWhile ignorable).head?.any cased

/-- The form that a capital sigma takes in lower case. `before` is the text in front of it, from its
last character on, and `after` the text behind it. -/
def lowercaseSigma (before after : List Char) : Char :=
  if caseFollows cased ignorable before && !caseFollows cased ignorable after then '\u03C2'
  else '\u03C3'

/-- A text in lower case behind another one, which is given from its last character on. -/
def lowercaseBehind : List Char → List Char → List Char
  | _, [] => []
  | before, c :: cs =>
    (if c = '\u03A3' then [lowercaseSigma cased ignorable before cs] else lowercase c) ++
      lowercaseBehind (c :: before) cs

/-- A text in lower case, with the form of a sigma that its place in a word asks for. -/
def lowercasedWords (text : String) : String :=
  String.ofList (lowercaseBehind cased ignorable [] text.toList)

/-- A quotation mark is passed over, a blank is not. -/
example : lowercasedWords (0x370 ≤ ·.toNat) (· = '"') "ΣΑΣ\" Σ \"Σ\"Α" = "σας\" σ \"σ\"α" := by
  decide +kernel

theorem not_exclusive_lowercaseSigma (before after : List Char) :
    ¬ Exclusive (lowercaseSigma cased ignorable before after) := by
  rw [lowercaseSigma]
  split
  · decide
  · decide

variable {before cs : List Char}

theorem lowercaseBehind_of_ascii (h : ∀ c ∈ cs, c.toNat < 0x80) :
    lowercaseBehind cased ignorable before cs = cs.flatMap lowercase := by
  induction cs generalizing before with
  | nil => rfl
  | cons c cs ih =>
    obtain ⟨hc, hcs⟩ := List.forall_mem_cons.mp h
    have hsigma : c ≠ '\u03A3' := by
      rintro rfl
      exact absurd hc (by decide)
    rw [lowercaseBehind, if_neg hsigma, ih hcs, List.flatMap_cons]

theorem ascii_of_lowercaseBehind
    (h : ∀ d ∈ lowercaseBehind cased ignorable before cs, Exclusive d) :
    ∀ c ∈ cs, c.toNat < 0x80 := by
  induction cs generalizing before with
  | nil => exact fun c hc => absurd hc List.not_mem_nil
  | cons c cs ih =>
    rw [lowercaseBehind, List.forall_mem_append] at h
    obtain ⟨hfirst, hrest⟩ := h
    refine List.forall_mem_cons.mpr ⟨?_, ih hrest⟩
    split at hfirst
    · exact absurd (hfirst _ (List.mem_singleton_self _))
        (not_exclusive_lowercaseSigma cased ignorable before cs)
    · by_contra hout
      obtain ⟨d, hd, hexclusive⟩ := exists_not_exclusive (c := c) (by omega)
      exact hexclusive (hfirst d hd)

/-- Among such names a text is found in the same way whichever form its sigmas take. -/
theorem AsciiNames.mem_lowercasedWords_iff (h : AsciiNames names) :
    (lowercasedWords cased ignorable text, a) ∈ names ↔ (lowercased text, a) ∈ names := by
  have hsame (hascii : ∀ c ∈ text.toList, c.toNat < 0x80) :
      lowercasedWords cased ignorable text = lowercased text := by
    rw [lowercasedWords, lowercased, lowercaseBehind_of_ascii cased ignorable hascii]
  constructor
  · intro hmem
    have hexclusive : ∀ c ∈ lowercaseBehind cased ignorable [] text.toList, Exclusive c := by
      intro c hc
      refine (h _ hmem c ?_).1
      rwa [lowercasedWords, String.toList_ofList]
    rwa [hsame (ascii_of_lowercaseBehind cased ignorable hexclusive)] at hmem
  · intro hmem
    rwa [hsame (ascii_of_lowercased fun c hc => (h _ hmem c hc).1)]

end FinalSigma

/-! ## Finding by name -/

/-- A function finds values by their names without regard to the case of ASCII letters, and finds
none for a text with a character that is no such letter and no digit. -/
def FindsByName (find : String → Option α) (names : List (String × α)) : Prop :=
  ∀ text, (∀ a, find text = some a ↔ (text.toLower, a) ∈ names) ∧
    ((∃ c ∈ text.toList, 0x80 ≤ c.toNat ∨ ¬ c.isAlphanum) → find text = none)

theorem AsciiNames.findsByName {find : String → Option α} (h : AsciiNames names)
    (hfind : ∀ text a, find text = some a ↔ (lowercased text, a) ∈ names) :
    FindsByName find names := by
  intro text
  have hlower (a : α) : find text = some a ↔ (text.toLower, a) ∈ names :=
    (hfind text a).trans h.mem_iff
  refine ⟨hlower, ?_⟩
  rintro ⟨c, hc, hodd⟩
  refine Option.eq_none_iff_forall_ne_some.mpr fun a ha => ?_
  have hletter : c.isAlphanum := h.isAlphanum ((hlower a).mp ha) c hc
  rcases hodd with hhigh | hother
  · have hlow := toNat_lt_of_isAlphanum hletter
    omega
  · exact hother hletter

/-- The names of the trivia modes in lower case. -/
def Trivia.givenNames : List (String × Trivia) :=
  [("strict", .strict), ("compatible", .compatible), ("compat", .compatible)]

def Format.givenNames : List (String × Format) :=
  [("text", .text), ("json", .json), ("jsonl", .json), ("jsonlines", .json)]

def Log.Level.givenNames : List (String × Log.Level) :=
  [("error", .error), ("0", .error), ("warning", .warning), ("warn", .warning), ("1", .warning),
    ("info", .info), ("2", .info), ("debug", .debug), ("3", .debug)]

theorem Trivia.ofName?_eq_some_iff {mode : Trivia} :
    ofName? text = some mode ↔ (lowercased text, mode) ∈ givenNames := by
  rw [ofName?]
  cases mode <;> split <;> simp_all [givenNames]

theorem Format.ofName?_eq_some_iff {format : Format} :
    ofName? text = some format ↔ (lowercased text, format) ∈ givenNames := by
  rw [ofName?]
  cases format <;> split <;> simp_all [givenNames]

theorem Log.Level.ofName?_eq_some_iff {level : Log.Level} :
    ofName? text = some level ↔ (lowercased text, level) ∈ givenNames := by
  rw [ofName?]
  cases level <;> split <;> simp_all [givenNames]

theorem Trivia.asciiNames : AsciiNames givenNames := by
  simp [AsciiNames, givenNames, Exclusive, Char.isAlphanum]

theorem Format.asciiNames : AsciiNames givenNames := by
  simp [AsciiNames, givenNames, Exclusive, Char.isAlphanum]

theorem Log.Level.asciiNames : AsciiNames givenNames := by
  simp [AsciiNames, givenNames, Exclusive, Char.isAlphanum]

/-- Modes, formats and levels are found as they are when a sigma at the end of a word takes the form
that it has there. -/
theorem ofName?_eq_some_iff_words (cased ignorable : Char → Bool) (text : String) :
    (∀ mode, Trivia.ofName? text = some mode ↔
      (lowercasedWords cased ignorable text, mode) ∈ Trivia.givenNames) ∧
    (∀ format, Format.ofName? text = some format ↔
      (lowercasedWords cased ignorable text, format) ∈ Format.givenNames) ∧
    ∀ level, Log.Level.ofName? text = some level ↔
      (lowercasedWords cased ignorable text, level) ∈ Log.Level.givenNames :=
  ⟨fun _ => Trivia.ofName?_eq_some_iff.trans
      (Trivia.asciiNames.mem_lowercasedWords_iff cased ignorable).symm,
    fun _ => Format.ofName?_eq_some_iff.trans
      (Format.asciiNames.mem_lowercasedWords_iff cased ignorable).symm,
    fun _ => Log.Level.ofName?_eq_some_iff.trans
      (Log.Level.asciiNames.mem_lowercasedWords_iff cased ignorable).symm⟩

/-- Modes, formats and levels are found by the names listed for them in any case of their ASCII
letters, and by nothing else. -/
theorem settings_findsByName :
    FindsByName Trivia.ofName? Trivia.givenNames ∧
      FindsByName Format.ofName? Format.givenNames ∧
      FindsByName Log.Level.ofName? Log.Level.givenNames :=
  ⟨Trivia.asciiNames.findsByName fun _ _ => Trivia.ofName?_eq_some_iff,
    Format.asciiNames.findsByName fun _ _ => Format.ofName?_eq_some_iff,
    Log.Level.asciiNames.findsByName fun _ _ => Log.Level.ofName?_eq_some_iff⟩

theorem settings_findsByName_mixed :
    Trivia.ofName? "CompAT" = some .compatible ∧ Log.Level.ofName? "\u0130nfo" = none :=
  ⟨((settings_findsByName.1 "CompAT").1 .compatible).mpr (by decide +kernel),
    (settings_findsByName.2.2 "\u0130nfo").2 ⟨'\u0130', by decide +kernel, by decide⟩⟩

end TokenDump
