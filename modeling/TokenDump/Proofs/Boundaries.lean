import TokenDump.Proofs.PassingLexemes

/-! # Boundaries

What may change around a token without changing the token: the filler in front of it, and, behind
it, whatever lets it end where it ends. -/
namespace TokenDump.Lexer

variable {trivia : Trivia} {p : Position} {text gap lexeme rest rest' comment : List Char}
  {n : Nat} {c : Char} {t : Token} {ts : List (Located Token)}

/-- Blanks and comments that end before what follows them, whatever that is. -/
inductive Filler (trivia : Trivia) : List Char → Prop
  | nil : Filler trivia []
  | blank {c : Char} {more : List Char} (isBlank : isBlank c = true) (filler : Filler trivia more) :
      Filler trivia (c :: more)
  | block {comment more : List Char} (strict : trivia = .strict) (isComment : BlockComment comment)
      (filler : Filler trivia more) : Filler trivia (comment ++ more)
  | line {body more : List Char} (strict : trivia = .strict) (first : '\n' ∉ body)
      (filler : Filler trivia more) : Filler trivia ('/' :: '/' :: (body ++ '\n' :: more))

/-- A token other than the two that take the rest of the text. -/
def Closed (t : Token) : Prop := t ≠ .unclosedString ∧ t ≠ .unclosedComment

instance (t : Token) : Decidable (Closed t) := inferInstanceAs (Decidable (_ ∧ _))

theorem mem_of_isBlank (h : isBlank c = true) : c ∈ [' ', '\t', '\n', '\r'] := by
  simpa [isBlank, or_assoc] using h

theorem not_continuesWord_of_isBlank (h : isBlank c = true) : ¬ ContinuesWord c := by
  have hall : [' ', '\t', '\n', '\r'].all (fun c => !continuesWord c) = true := by decide
  rw [← continuesWord_iff]
  simpa using List.all_eq_true.mp hall c (mem_of_isBlank h)

theorem isDigit_of_isBlank (h : isBlank c = true) : c.isDigit = false := by
  have hall : [' ', '\t', '\n', '\r'].all (fun c => !c.isDigit) = true := by decide
  simpa using List.all_eq_true.mp hall c (mem_of_isBlank h)

theorem isBlank_of_startsWord (h : StartsWord c) : isBlank c = false := by
  refine Bool.eq_false_iff.mpr fun hb => not_continuesWord_of_isBlank hb ?_
  exact continuesWord_iff.mp (continuesWord_of_startsWord (startsWord_iff.mpr h))

theorem isBlank_of_mem_operator {op : Operator} (h : c ∈ op.spelling.toList) :
    isBlank c = false := by
  have hall : op.spelling.toList.all (fun c => !isBlank c) = true := by cases op <;> decide
  simpa using List.all_eq_true.mp hall c h

/-! ## Gaps -/

theorem Filler.append {a b : List Char} (ha : Filler trivia a) (hb : Filler trivia b) :
    Filler trivia (a ++ b) := by
  induction ha with
  | nil => exact hb
  | blank isBlank filler ih => exact .blank isBlank ih
  | block strict isComment filler ih =>
    rw [List.append_assoc]
    exact .block strict isComment ih
  | line strict first filler ih => simpa using Filler.line strict first ih

theorem filler_of_blanks {blanks : List Char} (h : ∀ c ∈ blanks, isBlank c = true) :
    Filler trivia blanks := by
  induction blanks with
  | nil => exact .nil
  | cons c blanks ih =>
    exact .blank (h c List.mem_cons_self) (ih fun d hd => h d (List.mem_cons_of_mem c hd))

theorem Blanks.cons {blanks : List Char} (h : Blanks blanks rest) (hc : isBlank c = true) :
    Blanks (c :: blanks) rest := ⟨by simpa [hc] using h.1, h.2⟩

theorem blanks_nil (h : ∀ c ∈ rest.head?, isBlank c = false) : Blanks [] rest :=
  ⟨by simp, h⟩

theorem Gap.cons (h : Gap trivia gap n rest) (hc : isBlank c = true) :
    Gap trivia (c :: gap) n rest := by
  cases trivia with
  | strict =>
    obtain ⟨all, last⟩ | ⟨all, isComment, more⟩ := h
    · exact .blanks (all.cons hc) last
    · exact .comment (all.cons hc) isComment more
  | compatible =>
    obtain ⟨all, blockPart, linePart⟩ := h
    exact .intro (all.cons hc) blockPart linePart

theorem Comment.head_not_blank {after : List Char} (h : Comment comment after) (text : List Char) :
    ∀ c ∈ (comment ++ text).head?, isBlank c = false := by
  rcases h with h | h
  · obtain ⟨tail, htail⟩ := h.mark text
    simp [← htail, isBlank]
  · obtain ⟨tail, htail⟩ := h.mark text
    simp [← htail, isBlank]

theorem StrictGap.prepend (h : StrictGap gap n rest) (hc : Comment comment (gap ++ rest)) :
    StrictGap (comment ++ gap) (n + 1) rest := by
  have hb : Blanks [] (comment ++ gap ++ rest) := by
    rw [List.append_assoc]
    exact blanks_nil (hc.head_not_blank _)
  exact .comment hb hc h

/-- More filler makes the gap longer, whatever follows. -/
theorem Filler.before_gap {filler : List Char} (hf : Filler trivia filler)
    (h : Gap trivia gap n rest) : ∃ m, Gap trivia (filler ++ gap) m rest := by
  induction hf with
  | nil => exact ⟨n, h⟩
  | blank isBlank filler ih =>
    obtain ⟨m, hm⟩ := ih
    exact ⟨m, hm.cons isBlank⟩
  | block strict isComment filler ih =>
    obtain ⟨m, hm⟩ := ih
    subst strict
    exact ⟨m + 1, by simpa [Gap] using StrictGap.prepend hm (.inl isComment)⟩
  | line strict first filler ih =>
    obtain ⟨m, hm⟩ := ih
    subst strict
    exact ⟨m + 1, by simpa [Gap] using StrictGap.prepend hm (.inr (.line first))⟩

/-- Only a line comment on the last line of a text needs a newline to end before what follows. -/
theorem StrictGap.filler_newline_and (h : StrictGap gap n rest) :
    Filler .strict (gap ++ ['\n']) ∧ (rest ≠ [] → Filler .strict gap) := by
  induction h with
  | blanks all last =>
    have hb : Filler .strict _ := filler_of_blanks all.1
    exact ⟨hb.append (.blank (by decide) .nil), fun _ => hb⟩
  | @comment blanks comment gap rest n all isComment more ih =>
    have hb : Filler .strict blanks := filler_of_blanks all.1
    have hclosed (hc : Filler .strict (blanks ++ comment)) :
        Filler .strict (blanks ++ comment ++ gap ++ ['\n']) ∧
          (rest ≠ [] → Filler .strict (blanks ++ comment ++ gap)) :=
      ⟨by simpa using hc.append ih.1, fun hr => hc.append (ih.2 hr)⟩
    rcases isComment with hblock | hline
    · exact hclosed (hb.append (by simpa using Filler.block rfl hblock .nil))
    · generalize ha : gap ++ rest = after at hline
      cases hline with
      | line first => exact hclosed (hb.append (.line rfl first .nil))
      | lastLine never =>
        obtain ⟨rfl, rfl⟩ := List.append_eq_nil_iff.mp ha
        exact ⟨by simpa using hb.append (.line rfl never .nil), fun hr => absurd rfl hr⟩

theorem StrictGap.filler (h : StrictGap gap n rest) (hr : rest ≠ []) : Filler .strict gap :=
  h.filler_newline_and.2 hr

theorem StrictGap.filler_newline (h : StrictGap gap n rest) : Filler .strict (gap ++ ['\n']) :=
  h.filler_newline_and.1

theorem StrictGap.not_line (h : StrictGap gap n rest) : ¬ ['/', '/'] <+: rest := by
  rintro ⟨text, rfl⟩
  obtain ⟨comment, after, he, hline⟩ := exists_lineComment text
  exact h.no_comment comment after he (.inr hline)

/-- Nothing is skipped where neither a blank nor the mark of a comment stands. -/
theorem gap_nil (hb : ∀ c ∈ rest.head?, isBlank c = false) (hblock : ¬ ['/', '*'] <+: rest)
    (hline : ¬ ['/', '/'] <+: rest) : Gap trivia [] 0 rest := by
  cases trivia with
  | strict =>
    refine .blanks (blanks_nil hb) ?_
    rintro comment after rfl (h | h)
    · exact hblock (h.mark after)
    · exact hline (h.mark after)
  | compatible =>
    have all : Blanks [] ([] ++ [] ++ rest) := blanks_nil hb
    have blockPart : BlockPart [] 0 ([] ++ rest) := .absent hblock
    exact CompatibleGap.intro all blockPart (.absent hline)

/-! ## Lexemes -/

theorem Lexeme.closed_or_last (h : Lexeme trivia lexeme rest t) : Closed t ∨ rest = [] := by
  cases h with
  | unclosedString | unclosedComment => exact .inr rfl
  | illegal noBlank noWord noDigit noQuote =>
    refine .inl ⟨fun he => ?_, fun he => ?_⟩
    · have hs := congrArg (·.text.toList) he
      simp [Token.illegal, Token.unclosedString] at hs
      exact noQuote hs
    · have hs := congrArg (·.text.toList) he
      simp [Token.illegal, Token.unclosedComment] at hs
  | _ => exact .inl ⟨by simp [Token.unclosedString, Token.illegal],
      by simp [Token.unclosedComment, Token.illegal]⟩

/-- A mark without blanks reaches at most one character over the lexeme, and none that a blank
replaces. -/
theorem prefix_of_followed {mark : List Char} (h : mark <+: lexeme ++ rest')
    (hlen : mark.length ≤ lexeme.length + 1) (hmark : ∀ c ∈ mark, isBlank c = false)
    (hr : ∀ d ∈ rest'.head?, isBlank d = true ∨ rest.head? = some d) : mark <+: lexeme ++ rest := by
  rcases Nat.lt_or_ge lexeme.length mark.length with hlt | hle
  · obtain ⟨extra, rfl⟩ := List.prefix_of_prefix_length_le (List.prefix_append lexeme rest') h hlt.le
    rw [List.prefix_append_right_inj] at h ⊢
    obtain ⟨d, rfl⟩ : ∃ d, extra = [d] := by
      rw [← List.length_eq_one_iff]
      simp only [List.length_append] at hlen hlt
      omega
    obtain ⟨tail, rfl⟩ := h
    have hd : isBlank d = false := hmark d (by simp)
    rcases hr d rfl with hb | hhead
    · simp [hd] at hb
    · obtain ⟨tail', rfl⟩ := List.head?_eq_some_iff.mp hhead
      exact ⟨tail', rfl⟩
  · exact (List.prefix_of_prefix_length_le h (List.prefix_append lexeme rest') hle).trans
      (List.prefix_append lexeme rest)

/-- A lexeme that does not take the rest of the text stands as well before a blank, before nothing
and before what begins as the rest. -/
theorem Lexeme.followed (h : Lexeme trivia lexeme rest t) (ht : Closed t)
    (hr : ∀ d ∈ rest'.head?, isBlank d = true ∨ rest.head? = some d) :
    Lexeme trivia lexeme rest' t := by
  have hword {run : List Char} (h : Word run rest) : Word run rest' := by
    obtain ⟨start, continued, maximal⟩ := h
    refine .intro start continued fun d hd => ?_
    exact (hr d hd).elim not_continuesWord_of_isBlank fun hd => maximal d hd
  have hop {op : Operator} (h : op.spelling.toList <+: lexeme ++ rest') (hl : lexeme ≠ []) :
      op.spelling.toList <+: lexeme ++ rest := by
    have hle : op.spelling.toList.length ≤ 2 := by cases op <;> decide
    have hpos := List.length_pos_iff.mpr hl
    exact prefix_of_followed h (by omega) (fun c hc => isBlank_of_mem_operator hc) hr
  cases h with
  | keyword word h => exact .keyword word (hword h)
  | identifier h free => exact .identifier (hword h) free
  | number nonempty digit maximal =>
    refine .number nonempty digit fun d hd => ?_
    exact (hr d hd).elim isDigit_of_isBlank fun hd => maximal d hd
  | string first => exact .string first
  | unclosedString never => exact absurd rfl ht.1
  | operator op longest =>
    exact .operator op fun other ho => longest other (hop ho (by cases op <;> decide))
  | delimiter mark => exact .delimiter mark
  | unclosedComment strict h => exact absurd rfl ht.2
  | illegal noBlank noWord noDigit noQuote noOperator noDelimiter noComment =>
    refine .illegal noBlank noWord noDigit noQuote (fun op ho => noOperator op ?_) noDelimiter
      fun hs hc => noComment hs ?_
    · exact hop ho (by simp)
    · have hc : ['/', '*'] <+: [_] ++ rest' := hc
      exact prefix_of_followed hc (by simp) (by simp [isBlank]) hr

theorem Word.head_not_blank {run : List Char} (h : Word run rest) :
    ∀ c ∈ run.head?, isBlank c = false := by
  obtain ⟨start, -, -⟩ := h
  rintro c ⟨⟩
  exact isBlank_of_startsWord start

theorem Lexeme.head_not_blank (h : Lexeme trivia lexeme rest t) (text : List Char) :
    ∀ c ∈ (lexeme ++ text).head?, isBlank c = false := by
  rw [List.head?_append_of_ne_nil lexeme h.ne_nil]
  intro c hc
  cases h with
  | keyword word h => exact h.head_not_blank c hc
  | identifier h free => exact h.head_not_blank c hc
  | number nonempty digit maximal =>
    refine Bool.eq_false_iff.mpr fun hb => ?_
    simpa [isDigit_of_isBlank hb] using digit c (List.mem_of_head? hc)
  | operator op longest => exact isBlank_of_mem_operator (List.mem_of_head? hc)
  | delimiter mark =>
    have hall : mark.spelling.toList.all (fun c => !isBlank c) = true := by cases mark <;> decide
    simpa using List.all_eq_true.mp hall c (List.mem_of_head? hc)
  | unclosedComment strict h =>
    obtain ⟨tail, rfl⟩ := h.mark
    obtain rfl : '/' = c := by simpa using hc
    decide
  | illegal noBlank =>
    obtain rfl : _ = c := by simpa using hc
    exact noBlank
  | _ =>
    obtain rfl : '"' = c := by simpa using hc
    decide

theorem BlockComment.exists_body (h : BlockComment comment) : ∃ body,
    comment = '/' :: '*' :: (body ++ ['*', '/']) ∧ ¬ ['*', '/'] <:+: body ++ ['*'] := by
  obtain ⟨first⟩ := h
  exact ⟨_, rfl, first⟩

theorem UnclosedComment.exists_body (h : UnclosedComment comment) : ∃ body,
    comment = '/' :: '*' :: body ∧ ¬ ['*', '/'] <:+: body := by
  obtain ⟨never⟩ := h
  exact ⟨_, rfl, never⟩

theorem UnclosedComment.no_comment (h : UnclosedComment text) (comment after : List Char)
    (he : text = comment ++ after) : ¬ Comment comment after := by
  subst he
  rintro (hblock | hline)
  · obtain ⟨body, rfl, -⟩ := hblock.exists_body
    obtain ⟨whole, he, never⟩ := h.exists_body
    exact never ⟨body, after, by simpa using he⟩
  · exact not_block_of_line (hline.mark after) h.mark

/-- Nothing is skipped before a lexeme that a blank or nothing follows. -/
theorem Lexeme.bare (h : Lexeme trivia lexeme rest t) (hr : ∀ d ∈ rest.head?, isBlank d = true) :
    Gap trivia [] 0 (lexeme ++ rest) := by
  have hb := h.head_not_blank rest
  by_cases ht : t = .unclosedComment
  · subst ht
    obtain ⟨rfl, rfl, hu⟩ := h.of_unclosedComment
    rw [List.append_nil] at hb ⊢
    exact .blanks (blanks_nil hb) hu.no_comment
  · have hm {c : Char} (hc : isBlank c = false) : ¬ ['/', c] <+: lexeme ++ rest := by
      intro hp
      obtain ⟨rfl, -⟩ := h.eq_slash ht (h.head_of_prefix hp)
      obtain ⟨tail, htail⟩ := hp
      obtain rfl : c :: tail = rest := by simpa using htail
      simp [hc] at hr
    exact gap_nil hb (hm (by decide)) (hm (by decide))

/-- Nothing is skipped before a lexeme before which nothing more was skipped. -/
theorem Lexeme.bare_followed (h : Lexeme .strict lexeme rest t) (ht : Closed t)
    (hg : StrictGap gap n (lexeme ++ rest))
    (hr : ∀ d ∈ rest'.head?, isBlank d = true ∨ rest.head? = some d) :
    Gap .strict [] 0 (lexeme ++ rest') := by
  have hlen := List.length_pos_iff.mpr h.ne_nil
  have hline : ¬ ['/', '/'] <+: lexeme ++ rest' := fun hp =>
    hg.not_line (prefix_of_followed hp (by simp; omega) (by simp [isBlank]) hr)
  have hblock : ¬ ['/', '*'] <+: lexeme ++ rest' := (h.followed ht hr).no_comment ht.2
  exact gap_nil (h.head_not_blank rest') hblock hline

theorem Segmentation.prepend {filler : List Char} (hf : Filler trivia filler)
    (h : Segmentation trivia (p.advanceOver filler) text ts) :
    Segmentation trivia p (filler ++ text) ts := by
  generalize hq : p.advanceOver filler = q at h
  cases h with
  | eof skipped =>
    subst hq
    obtain ⟨m, hm⟩ := hf.before_gap skipped
    rw [← Position.advanceOver_append]
    exact .eof hm
  | token skipped read more =>
    subst hq
    obtain ⟨m, hm⟩ := hf.before_gap skipped
    rw [← Position.advanceOver_append, ← List.append_assoc filler] at more
    simpa [Position.advanceOver_append] using Segmentation.token hm read more

theorem Segmentation.of_nil (h : Segmentation trivia p [] ts) : ts = [⟨.eof, .point p⟩] := by
  generalize hx : ([] : List Char) = text at h
  cases h with
  | eof skipped =>
    subst hx
    rfl
  | token skipped read more => simp [read.ne_nil] at hx

end TokenDump.Lexer
