import Mathlib.Data.List.Basic
import TokenDump.Proofs.JsonRoundTrip
import TokenDump.Proofs.OutputLines
import TokenDump.Proofs.Segmentation

/-! # Text dumps read back

A line of a dump as text shows kind, text and place of a token without ambiguity. But the text of a
token stands there as it is, and if a string goes over several lines, so does its token. -/
namespace TokenDump.Dump

open Json Lexer

/-- What a line shows of a token: kind and text, and where it starts on demand. -/
def shown (positions : Bool) (t : Located Token) : Token × Option (Nat × Nat) :=
  (t.value, if positions then some (t.span.start.line, t.span.start.column) else none)

/-- The text of the token has no newline in it. -/
def OneLine (t : Located Token) : Prop := '\n' ∉ t.value.text.toList

/-- The tokens of a source, and the output of a completed dump of it. -/
def Dumped (settings : Settings.Dumping) (tokens : List (Located Token)) (output : Bytes) : Prop :=
  ∃ (σ : Type) (w : Writer σ) (s : σ) (elapsed : Nat) (text : String)
      (scanning : Settings.Scanning),
    Completed (run settings elapsed (ofText text scanning) (.start w s)).result ∧
    tokens = proper (ofText text scanning).drain.1 ∧
    output = (run settings elapsed (ofText text scanning) (.start w s)).delivery.taken

variable {positions failOnIllegal : Bool} {t u : Located Token} {ts us : List (Located Token)}

/-- Two texts are split alike at the first place where this character stands. -/
theorem append_cons_inj {c : Char} {as bs as' bs' : List Char} (h : c ∉ as) (h' : c ∉ as')
    (he : as ++ c :: bs = as' ++ c :: bs') : as = as' ∧ bs = bs' := by
  have hsplit := congrArg (List.splitOn c) he
  rw [List.splitOn_append_cons_self_of_not_mem h, List.splitOn_append_cons_self_of_not_mem h']
    at hsplit
  obtain rfl := (List.cons.inj hsplit).1
  exact ⟨rfl, (List.cons.inj (List.append_cancel_left he)).2⟩

/-- Two texts are split alike at the last place where this character stands. -/
theorem append_cons_inj' {c : Char} {as bs as' bs' : List Char} (h : c ∉ bs) (h' : c ∉ bs')
    (he : as ++ c :: bs = as' ++ c :: bs') : as = as' ∧ bs = bs' := by
  have hreverse := congrArg List.reverse he
  simp only [List.reverse_append, List.reverse_cons, List.append_assoc, List.singleton_append]
    at hreverse
  obtain ⟨hbs, has⟩ := append_cons_inj (by simpa using h) (by simpa using h') hreverse
  exact ⟨List.reverse_injective has, List.reverse_injective hbs⟩

theorem name_free (k : Kind) : ' ' ∉ k.name.toList ∧ '\n' ∉ k.name.toList := by
  have hall : ∀ k ∈ Kind.all, ' ' ∉ k.name.toList ∧ '\n' ∉ k.name.toList := by decide
  exact hall k k.mem_all

theorem name_inj {k k' : Kind} (h : k.name = k'.name) : k = k' := by
  have hfound := congrArg Kind.ofName? h
  rw [Kind.ofName?_name, Kind.ofName?_name] at hfound
  exact Option.some.inj hfound

theorem toString_free {c : Char} (n : Nat) (h : c.isDigit = false) :
    c ∉ (toString n).toList := by
  intro hmem
  rw [isDigit_toString n c hmem] at h
  cases h

theorem toString_inj {m n : Nat} (h : (toString m).toList = (toString n).toList) : m = n := by
  have hdigits : Nat.toDigits 10 m = Nat.toDigits 10 n := by
    simpa only [Nat.toString_eq_repr, Nat.toList_repr] using h
  calc
    m = Nat.ofDigitChars 10 (Nat.toDigits 10 m) 0 := Nat.ofDigitChars_ten_toDigits.symm
    _ = Nat.ofDigitChars 10 (Nat.toDigits 10 n) 0 := by rw [hdigits]
    _ = n := Nat.ofDigitChars_ten_toDigits

theorem toList_render (t : Token) : t.render.toList =
    "Type: ".toList ++
      (t.kind.name.toList ++ ' ' :: ("| Literal: ".toList ++ t.text.toList)) := by
  simp [Token.render]

theorem render_inj {a b : Token} (h : a.render.toList = b.render.toList) : a = b := by
  rw [toList_render, toList_render] at h
  obtain ⟨hname, hrest⟩ :=
    append_cons_inj (name_free a.kind).1 (name_free b.kind).1 (List.append_cancel_left h)
  have hkind := name_inj (String.toList_inj.mp hname)
  have htext := String.toList_inj.mp (List.append_cancel_left hrest)
  obtain ⟨kind, text⟩ := a
  obtain rfl : kind = b.kind := hkind
  obtain rfl : text = b.text := htext
  rfl

theorem toList_line (t : Located Token) : (line t ⟨.text, true, failOnIllegal⟩).toList =
    (t.value.render.toList ++ " @".toList ++ ' ' :: (toString t.span.start.line).toList) ++
      ':' :: (toString t.span.start.column).toList := by
  have hcolon : toString ":" = ":" := rfl
  simp [line, Position.render, hcolon]

/-- The place behind a token ends its line, so its parts are found from the end. -/
theorem line_inj (h : (line t ⟨.text, positions, failOnIllegal⟩).toList =
    (line u ⟨.text, positions, failOnIllegal⟩).toList) :
    shown positions t = shown positions u := by
  cases positions with
  | false =>
    have hvalue : t.value = u.value := render_inj h
    simp [shown, hvalue]
  | true =>
    rw [toList_line, toList_line] at h
    obtain ⟨hfront, hcolumn⟩ :=
      append_cons_inj' (toString_free _ (by decide)) (toString_free _ (by decide)) h
    obtain ⟨hrender, hstart⟩ :=
      append_cons_inj' (toString_free _ (by decide)) (toString_free _ (by decide)) hfront
    have hvalue := render_inj (List.append_cancel_right hrender)
    simp [shown, hvalue, toString_inj hstart, toString_inj hcolumn]

theorem lineText_inj (h : lineText ⟨.text, positions, failOnIllegal⟩ t =
    lineText ⟨.text, positions, failOnIllegal⟩ u) : shown positions t = shown positions u := by
  have hdecoded := congrArg Utf8.decode? h
  rw [lineText, lineText, Utf8.decode?_encode, Utf8.decode?_encode] at hdecoded
  exact line_inj (Option.some.inj hdecoded)

theorem count_line (t : Located Token) :
    (line t ⟨.text, positions, failOnIllegal⟩).toList.count '\n' =
      t.value.text.toList.count '\n' := by
  have hrender : t.value.render.toList.count '\n' = t.value.text.toList.count '\n' := by
    have hname := List.count_eq_zero.mpr (name_free t.value.kind).2
    rw [toList_render]
    simp [hname]
  cases positions with
  | false => exact hrender
  | true =>
    have hstart (n : Nat) : (toString n).toList.count '\n' = 0 :=
      List.count_eq_zero.mpr (toString_free n (by decide))
    rw [toList_line]
    simp [hrender, -Nat.toString_eq_repr, hstart]

theorem not_mem_line (h : ∀ t ∈ ts, OneLine t) :
    ∀ t ∈ ts, '\n' ∉ (line t ⟨.text, positions, failOnIllegal⟩).toList := by
  intro t ht
  rw [← List.count_eq_zero, count_line, List.count_eq_zero]
  exact h t ht

theorem map_shown (h : ts.map (lineText ⟨.text, positions, failOnIllegal⟩) =
    us.map (lineText ⟨.text, positions, failOnIllegal⟩)) :
    ts.map (shown positions) = us.map (shown positions) := by
  induction ts generalizing us with
  | nil =>
    obtain rfl : us = [] := by simpa using h.symm
    rfl
  | cons t ts ih =>
    cases us with
    | nil => simp at h
    | cons u us =>
      obtain ⟨hfirst, hrest⟩ := List.cons.inj h
      rw [List.map_cons, List.map_cons, lineText_inj hfirst, ih hrest]

theorem script_inj (hts : ∀ t ∈ ts, OneLine t) (hus : ∀ u ∈ us, OneLine u)
    (h : script ⟨.text, positions, failOnIllegal⟩ ts = script ⟨.text, positions, failOnIllegal⟩ us) :
    ts.map (shown positions) = us.map (shown positions) := by
  have hsplit := congrArg (List.splitOn newline) h
  rw [splitOn_script (not_mem_line hts), splitOn_script (not_mem_line hus)] at hsplit
  exact map_shown (List.append_cancel_right hsplit)

theorem Dumped.script {settings : Settings.Dumping} {output : Bytes}
    (h : Dumped settings ts output) : output = script settings ts := by
  obtain ⟨σ, w, s, elapsed, text, scanning, hcompleted, rfl, rfl⟩ := h
  exact (run_completed hcompleted).1

/-- Sources are always dumped to the end in memory. -/
theorem dumped_toMemory (settings : Settings.Dumping) (elapsed : Nat) (text : String)
    (scanning : Settings.Scanning) : Dumped settings (proper (ofText text scanning).drain.1)
      (toMemory settings elapsed (ofText text scanning)).delivery.taken := by
  obtain ⟨ts, hts⟩ := exists_segmentation scanning.trivia .start text.toList
  have hresult : (run settings elapsed (ofText text scanning) (.start .memory ⟨⟩)).result =
      verdict settings (ofText text scanning).drain.1 none := by
    rw [← (drain_ofText hts).2]
    exact toMemory_result settings elapsed (ofText text scanning)
  refine ⟨Unit, .memory, ⟨⟩, elapsed, text, scanning, ?_, rfl, rfl⟩
  rw [hresult, verdict]
  split <;> trivial

/-- Each token adds the newlines of its text to the one behind its line. As long as no text has
newlines, the lines are those of the tokens, and no other tokens have them. -/
theorem Dumped.text_lines {tokens : List (Located Token)} {output : Bytes}
    (h : Dumped ⟨.text, positions, failOnIllegal⟩ tokens output) :
    output.count newline =
        tokens.length + (tokens.map fun t => t.value.text.toList.count '\n').sum ∧
      ((∀ t ∈ tokens, OneLine t) →
        output.splitOn newline =
            tokens.map (lineText ⟨.text, positions, failOnIllegal⟩) ++ [[]] ∧
          ∀ others, Dumped ⟨.text, positions, failOnIllegal⟩ others output →
            (∀ t ∈ others, OneLine t) →
              others.map (shown positions) = tokens.map (shown positions)) := by
  have houtput := h.script
  refine ⟨?_, fun hone => ⟨?_, fun others hothers hone' => ?_⟩⟩
  · rw [houtput, count_script]
    simp only [count_line]
  · rw [houtput]
    exact splitOn_script (not_mem_line hone)
  · exact script_inj hone' hone (hothers.script.symm.trans houtput)

theorem dumped_text_word :
    let tokens := proper (ofText "print \"a\"" ⟨.strict, true, true⟩).drain.1
    let output := (toMemory ⟨.text, true, true⟩ 0
      (ofText "print \"a\"" ⟨.strict, true, true⟩)).delivery.taken
    output.count newline = tokens.length ∧
      ∀ others, Dumped ⟨.text, true, true⟩ others output → (∀ t ∈ others, OneLine t) →
        others.map (shown true) =
          [(⟨.keyword .print, "print"⟩, some (1, 1)), (⟨.string, "a"⟩, some (1, 7))] := by
  intro tokens output
  have hone : ∀ t ∈ tokens, OneLine t := by
    simp only [OneLine]
    decide +kernel
  obtain ⟨hcount, hlines⟩ :=
    (dumped_toMemory ⟨.text, true, true⟩ 0 "print \"a\"" ⟨.strict, true, true⟩).text_lines
  refine ⟨hcount.trans (by decide +kernel), fun others hothers hone' => ?_⟩
  exact ((hlines hone).2 others hothers hone').trans (by decide +kernel)

/-- A string with a newline in it looks like two tokens, whether places are shown or not. -/
theorem toMemory_text_ambiguous :
    let tokens (text : String) :=
      (proper (ofText text ⟨.strict, true, true⟩).drain.1).map (·.value)
    let output (positions : Bool) (text : String) :=
      (toMemory ⟨.text, positions, false⟩ 0 (ofText text ⟨.strict, true, true⟩)).delivery.taken
    output false "\"a\nType: IDENTIFIER | Literal: b\"" = output false "\"a\" b" ∧
      output true "    \"a @ 1:1\nType: IDENTIFIER | Literal: b\"" = output true "\"a\" b" ∧
      tokens "\"a\" b" = [⟨.string, "a"⟩, ⟨.identifier, "b"⟩] ∧
      tokens "\"a\nType: IDENTIFIER | Literal: b\"" =
        [⟨.string, "a\nType: IDENTIFIER | Literal: b"⟩] ∧
      tokens "    \"a @ 1:1\nType: IDENTIFIER | Literal: b\"" =
        [⟨.string, "a @ 1:1\nType: IDENTIFIER | Literal: b"⟩] := by
  intro tokens output
  have houtput (positions : Bool) (text : String) : output positions text = script
      ⟨.text, positions, false⟩ (proper (ofText text ⟨.strict, true, true⟩).drain.1) :=
    toMemory_taken _ _ _
  refine ⟨?_, ?_, ?_, ?_, ?_⟩
  · rw [houtput, houtput]
    decide +kernel
  · rw [houtput, houtput]
    decide +kernel
  all_goals decide +kernel

end TokenDump.Dump
