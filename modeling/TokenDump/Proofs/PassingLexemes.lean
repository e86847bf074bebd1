import TokenDump.Proofs.PassingGaps

/-! # Passing lexemes

Scanning a lexeme passes exactly the stretch that the grammar gives it, and makes its token.
Together with the gap before it, that is one token of the source. -/
namespace TokenDump.Lexer

open Scan Cursor

variable {start : Position} {trivia : Trivia} {c : Char} {gap lexeme run rest : List Char} {n : Nat}
  {t : Token}

/-- The characters that begin operators, delimiters and strings. -/
def marks : List Char :=
  ['(', ')', '\x7b', '\x7d', ',', ';', '+', '-', '=', '<', '>', '!', '"']

theorem startsWord_mark (h : c ∈ marks) : startsWord c = false := by
  have hall : marks.all (fun c => !startsWord c) = true := by decide
  simpa using List.all_eq_true.mp hall c h

theorem isDigit_mark (h : c ∈ marks) : c.isDigit = false := by
  have hall : marks.all (fun c => !c.isDigit) = true := by decide
  simpa using List.all_eq_true.mp hall c h

theorem toNat_digit (h : c.isDigit = true) : 48 ≤ c.toNat ∧ c.toNat ≤ 57 := by
  simpa [Char.isDigit, UInt32.le_iff_toNat_le] using h

theorem startsWord_digit (h : c.isDigit = true) : startsWord c = false := by
  have hb := toNat_digit h
  have hall : ∀ n < 10, startsWord (Char.ofNat (48 + n)) = false := by decide
  have hc : Char.ofNat (48 + (c.toNat - 48)) = c := by
    rw [Nat.add_sub_cancel' hb.1, Char.ofNat_toNat]
  exact hc ▸ hall (c.toNat - 48) (by omega)

theorem startsWord_iff : startsWord c = true ↔ StartsWord c := by
  simp [startsWord, StartsWord]

theorem continuesWord_iff : continuesWord c = true ↔ ContinuesWord c := by
  simp [continuesWord, ContinuesWord]

theorem ofChar?_delimiter (mark : Delimiter) :
    ∃ c, mark.spelling.toList = [c] ∧ Delimiter.ofChar? c = some mark := by
  cases mark <;> exact ⟨_, rfl, by decide⟩

theorem mem_marks_of_ofChar? {mark : Delimiter} (h : Delimiter.ofChar? c = some mark) :
    c ∈ marks := by
  have hs : mark.spelling = c.toString := by simpa using List.find?_some h
  have hc : mark.spelling.toList = [c] := by simp [hs]
  cases mark <;> (obtain rfl : _ = c := List.head_eq_of_cons_eq hc; decide)

theorem mem_marks_of_rule {rule : OperatorRule} (h : rule ∈ operatorRules) : rule.first ∈ marks := by
  revert rule
  decide

theorem lexemeAt_rule {rule : OperatorRule} (h : rule ∈ operatorRules) :
    lexemeAt rule.first = oneOrTwo rule := by
  have hd : Delimiter.ofChar? rule.first = none := by
    revert rule
    decide
  have hf : operatorRules.find? (·.first == rule.first) = some rule := by
    simp only [operatorRules, List.mem_cons, List.not_mem_nil, or_false] at h
    rcases h with rfl | rfl | rfl | rfl | rfl | rfl <;> rfl
  rw [lexemeAt, hd]
  simp only [hf]

theorem lexemeAt_of_not_mark (h : c ∉ marks) : lexemeAt c =
    if startsWord c then word else if c.isDigit then number else single (.illegal c.toString) := by
  have hd : Delimiter.ofChar? c = none := by
    cases hd : Delimiter.ofChar? c with
    | none => rfl
    | some mark => exact absurd (mem_marks_of_ofChar? hd) h
  have hf : operatorRules.find? (·.first == c) = none := by
    rw [List.find?_eq_none]
    intro rule hr he
    exact h (beq_iff_eq.mp he ▸ mem_marks_of_rule hr)
  have hq : (c == '"') = false := by
    rw [beq_eq_false_iff_ne]
    rintro rfl
    exact h (by decide)
  rw [lexemeAt, hd]
  simp only [hf, hq, Bool.false_eq_true, if_false]

theorem passes_lexemeAt (h : (lexemeAt c).Passes t start (c :: run) rest n) :
    Scan.Passes Lexer.lexeme t start (c :: run) rest n :=
  passes_cursor fun _ d hs _ => by
    have hc : d.current = some c := hs.current
    rw [hc]
    exact h

theorem passes_single (t : Token) : (single t).Passes t start [c] rest 0 :=
  passes_step c (passes_pure t _ _)

theorem passes_pair (rule : OperatorRule) :
    (oneOrTwo rule).Passes (operator rule.pair) start [rule.first, rule.second] rest 0 :=
  passes_cursor fun _ d hs _ => by
    have hl : d.lookahead = some rule.second := hs.lookahead
    rw [hl, if_pos (by simp)]
    exact passes_step _ (passes_step _ (passes_pure _ _ _))

theorem passes_alone (rule : OperatorRule) (h : rest.head? ≠ some rule.second) :
    (oneOrTwo rule).Passes rule.alone start [rule.first] rest 0 :=
  passes_cursor fun _ d hs _ => by
    have hl : d.lookahead = rest.head? := hs.lookahead
    rw [hl, if_neg (by simpa using h)]
    exact passes_step _ (passes_pure _ _ _)

theorem spelling_pair {rule : OperatorRule} (h : rule ∈ operatorRules) :
    rule.pair.spelling.toList = [rule.first, rule.second] := by
  revert rule
  decide

theorem text_alone {rule : OperatorRule} (h : rule ∈ operatorRules) :
    rule.alone.text.toList = [rule.first] := by
  revert rule
  decide

theorem exists_rule (op : Operator) :
    ∃ rule ∈ operatorRules, rule.pair = op ∨ rule.alone = operator op := by
  have h : ∀ op : Operator,
      operatorRules.any (fun rule => rule.pair = op || rule.alone = operator op) = true := by
    intro op
    cases op <;> decide
  simpa [List.any_eq_true] using h op

theorem passes_operator (op : Operator)
    (longest : ∀ other : Operator, other.spelling.toList <+: op.spelling.toList ++ rest →
      other.spelling.toList.length ≤ op.spelling.toList.length) :
    Scan.Passes Lexer.lexeme (operator op) start op.spelling.toList rest 0 := by
  obtain ⟨rule, hr, rfl | ha⟩ := exists_rule op
  · rw [spelling_pair hr]
    exact passes_lexemeAt (lexemeAt_rule hr ▸ passes_pair rule)
  · have hs : op.spelling.toList = [rule.first] := by
      rw [← text_alone hr, ha, operator]
    have hn : rest.head? ≠ some rule.second := by
      intro hh
      obtain ⟨tail, rfl⟩ := List.head?_eq_some_iff.mp hh
      have := longest rule.pair (by simp [spelling_pair hr, hs])
      simp [spelling_pair hr, hs] at this
    rw [hs, ← ha]
    exact passes_lexemeAt (lexemeAt_rule hr ▸ passes_alone rule hn)

theorem ofSpelling?_spelling (word : Keyword) : Keyword.ofSpelling? word.spelling = some word := by
  cases word <;> decide

theorem ofWord_free (h : ∀ word : Keyword, word.spelling.toList ≠ run) :
    Kind.ofWord (String.ofList run) = .identifier := by
  have hn : Keyword.ofSpelling? (String.ofList run) = none := by
    rw [Keyword.ofSpelling?, List.find?_eq_none]
    intro word _ he
    refine h word ?_
    rw [beq_iff_eq.mp he, String.toList_ofList]
  rw [Kind.ofWord, hn]

theorem passes_word (h : Word run rest) :
    Scan.Passes Lexer.lexeme ⟨.ofWord (String.ofList run), String.ofList run⟩ start run rest 0 := by
  obtain @⟨c, run, rest, hstart, continued, maximal⟩ := h
  have hw : startsWord c = true := startsWord_iff.mpr hstart
  have hm : c ∉ marks := fun hm => by simp [startsWord_mark hm] at hw
  have hr : Runs (fun d _ => continuesWord d) (c :: run) rest := by
    refine runs_iff.mpr ⟨fun d hd => ?_, fun d hd => ?_⟩
    · rcases List.mem_cons.mp hd with rfl | hd
      · exact continuesWord_of_startsWord hw
      · exact continuesWord_iff.mpr (continued d hd)
    · exact Bool.eq_false_iff.mpr fun hc => maximal d hd (continuesWord_iff.mp hc)
  refine passes_lexemeAt ?_
  rw [lexemeAt_of_not_mark hm, if_pos hw]
  exact (passes_takeWhile hr).bind_nil (passes_pure _ _ _)

theorem passes_number {digits : List Char} (nonempty : digits ≠ [])
    (digit : ∀ d ∈ digits, d.isDigit = true) (maximal : ∀ d ∈ rest.head?, d.isDigit = false) :
    Scan.Passes Lexer.lexeme ⟨.number, String.ofList digits⟩ start digits rest 0 := by
  cases digits with
  | nil => exact absurd rfl nonempty
  | cons c digits =>
    have hd : c.isDigit = true := digit c List.mem_cons_self
    have hm : c ∉ marks := fun hm => by simp [isDigit_mark hm] at hd
    have hw : startsWord c = false := startsWord_digit hd
    refine passes_lexemeAt ?_
    rw [lexemeAt_of_not_mark hm, hw, if_neg (by simp), if_pos hd]
    exact (passes_takeWhile (runs_iff.mpr ⟨digit, maximal⟩)).bind_nil (passes_pure _ _ _)

theorem runs_string {body : List Char} (h : '"' ∉ body) (hr : ∀ d ∈ rest.head?, d = '"') :
    Runs (fun c _ => c != '"') body rest := by
  refine runs_iff.mpr ⟨fun d hd => ?_, fun d hd => by simp [hr d hd]⟩
  have : d ≠ '"' := fun he => h (he ▸ hd)
  simpa using this

theorem lexemeAt_quote : lexemeAt '"' = string := by
  have hd : Delimiter.ofChar? '"' = none := by decide
  rw [lexemeAt, hd]
  rfl

theorem passes_string {body : List Char} (first : '"' ∉ body) :
    Scan.Passes Lexer.lexeme ⟨.string, String.ofList body⟩ start ('"' :: (body ++ ['"'])) rest 0 := by
  refine passes_lexemeAt ?_
  rw [lexemeAt_quote]
  refine passes_step '"' (passes_run (runs_string first (by simp)) ?_)
  refine passes_cursor fun _ d hs _ => ?_
  have he : d.isExhausted = false := hs.isExhausted
  rw [he]
  exact passes_step '"' (passes_pure _ _ _)

theorem passes_unclosedString {body : List Char} (never : '"' ∉ body) :
    Scan.Passes Lexer.lexeme .unclosedString start ('"' :: body) [] 0 := by
  refine passes_lexemeAt ?_
  rw [lexemeAt_quote, ← List.append_nil body]
  refine passes_step '"' (passes_run (runs_string never (by simp)) ?_)
  refine passes_cursor fun _ d hs _ => ?_
  have he : d.isExhausted = true := hs.isExhausted
  rw [he]
  exact passes_pure _ _ _

/-- A mark that starts no operator here, no delimiter and no string is an exclamation mark. -/
theorem eq_exclamation (hc : c ∈ marks) (noQuote : c ≠ '"')
    (noOperator : ∀ op : Operator, ¬ op.spelling.toList <+: c :: rest)
    (noDelimiter : ∀ mark : Delimiter, mark.spelling.toList ≠ [c]) : c = '!' := by
  have hop : ∀ op : Operator, op.spelling.toList ≠ [c] := fun op h =>
    noOperator op (h ▸ List.prefix_append [c] rest)
  simp only [marks, List.mem_cons, List.not_mem_nil, or_false] at hc
  rcases hc with rfl | rfl | rfl | rfl | rfl | rfl | rfl | rfl | rfl | rfl | rfl | rfl | rfl
  · exact absurd rfl (noDelimiter .leftParen)
  · exact absurd rfl (noDelimiter .rightParen)
  · exact absurd rfl (noDelimiter .leftBrace)
  · exact absurd rfl (noDelimiter .rightBrace)
  · exact absurd rfl (noDelimiter .comma)
  · exact absurd rfl (noDelimiter .semicolon)
  · exact absurd rfl (hop .plus)
  · exact absurd rfl (hop .minus)
  · exact absurd rfl (hop .assign)
  · exact absurd rfl (hop .less)
  · exact absurd rfl (hop .greater)
  · rfl
  · exact absurd rfl noQuote

theorem passes_illegal (noWord : ¬ StartsWord c) (noDigit : c.isDigit = false) (noQuote : c ≠ '"')
    (noOperator : ∀ op : Operator, ¬ op.spelling.toList <+: c :: rest)
    (noDelimiter : ∀ mark : Delimiter, mark.spelling.toList ≠ [c]) :
    Scan.Passes Lexer.lexeme (.illegal c.toString) start [c] rest 0 := by
  refine passes_lexemeAt ?_
  by_cases hc : c ∈ marks
  · obtain rfl := eq_exclamation hc noQuote noOperator noDelimiter
    have hr : ⟨'!', '=', .notEqual, .illegal "!"⟩ ∈ operatorRules := by simp [operatorRules]
    rw [lexemeAt_rule hr]
    refine passes_alone _ fun hh => ?_
    obtain ⟨tail, rfl⟩ := List.head?_eq_some_iff.mp hh
    exact noOperator .notEqual ⟨tail, rfl⟩
  · have hw : ¬ startsWord c = true := fun h => noWord (startsWord_iff.mp h)
    rw [lexemeAt_of_not_mark hc, if_neg hw, if_neg (by simp [noDigit])]
    exact passes_single _

theorem passes_delimiter (mark : Delimiter) :
    Scan.Passes Lexer.lexeme (delimiter mark) start mark.spelling.toList rest 0 := by
  obtain ⟨c, hs, hc⟩ := ofChar?_delimiter mark
  rw [hs]
  refine passes_lexemeAt ?_
  rw [lexemeAt, hc]
  exact passes_single _

/-- All lexemes but the comment that nothing closes, which is trivia to the scan. -/
theorem passes_lexeme (h : Lexeme trivia lexeme rest t) (ht : t ≠ .unclosedComment) :
    Scan.Passes Lexer.lexeme t start lexeme rest 0 := by
  cases h with
  | keyword word h =>
    have hk : Kind.ofWord (String.ofList word.spelling.toList) = .keyword word := by
      rw [String.ofList_toList, Kind.ofWord, ofSpelling?_spelling]
    have hp := @passes_word start _ _ h
    rwa [hk, String.ofList_toList] at hp
  | identifier h free => exact ofWord_free free ▸ passes_word h
  | number nonempty digit maximal => exact passes_number nonempty digit maximal
  | string first => exact passes_string first
  | unclosedString never => exact passes_unclosedString never
  | operator op longest => exact passes_operator op longest
  | delimiter mark => exact passes_delimiter mark
  | unclosedComment strict h => exact absurd rfl ht
  | illegal noBlank noWord noDigit noQuote noOperator noDelimiter noComment =>
    exact passes_illegal noWord noDigit noQuote noOperator noDelimiter

theorem startsWord_slash : ¬ StartsWord '/' := by
  rw [← startsWord_iff]
  decide

/-- Only a comment goes on behind a slash, where comments are tokens. -/
theorem Lexeme.eq_slash (h : Lexeme trivia lexeme rest t) (ht : t ≠ .unclosedComment)
    (hh : lexeme.head? = some '/') :
    lexeme = ['/'] ∧ (trivia = .strict → ¬ ['/', '*'] <+: lexeme ++ rest) := by
  cases h with
  | keyword word h => cases word <;> exact absurd hh (by decide)
  | identifier h free =>
    obtain ⟨hstart, -, -⟩ := h
    obtain rfl : _ = '/' := by simpa using hh
    exact absurd hstart startsWord_slash
  | number nonempty digit maximal =>
    obtain ⟨d, digits, rfl⟩ := List.exists_cons_of_ne_nil nonempty
    obtain rfl : d = '/' := by simpa using hh
    exact absurd (digit _ List.mem_cons_self) (by decide)
  | string first => simp at hh
  | unclosedString never => simp at hh
  | operator op longest => cases op <;> exact absurd hh (by decide)
  | delimiter mark => cases mark <;> exact absurd hh (by decide)
  | unclosedComment strict h => exact absurd rfl ht
  | illegal noBlank noWord noDigit noQuote noOperator noDelimiter noComment =>
    exact ⟨by simpa using hh, noComment⟩

theorem Lexeme.head_of_prefix {c : Char} (h : Lexeme trivia lexeme rest t)
    (hp : ['/', c] <+: lexeme ++ rest) : lexeme.head? = some '/' := by
  obtain ⟨tail, htail⟩ := hp
  rw [← List.head?_append_of_ne_nil lexeme h.ne_nil, ← htail]
  rfl

/-- Only a comment begins with the opening mark of a comment, where comments are tokens. -/
theorem Lexeme.no_comment (h : Lexeme .strict lexeme rest t) (ht : t ≠ .unclosedComment) :
    ¬ ['/', '*'] <+: lexeme ++ rest := fun hp =>
  (h.eq_slash ht (h.head_of_prefix hp)).2 rfl hp

theorem Lexeme.of_unclosedComment (h : Lexeme trivia lexeme rest .unclosedComment) :
    trivia = .strict ∧ rest = [] ∧ UnclosedComment lexeme := by
  generalize ht : Token.unclosedComment = t at h
  cases h with
  | unclosedComment strict h => exact ⟨strict, rfl, h⟩
  | illegal =>
    have hl := congrArg (fun t => t.text.toList.length) ht
    simp [Token.unclosedComment, Token.illegal] at hl
  | _ => simp [Token.unclosedComment, Token.illegal, Token.unclosedString] at ht

theorem passes_skipTrivia (h : Gap trivia gap n rest)
    (hc : trivia = .strict → ¬ ['/', '*'] <+: rest) :
    (skipTrivia trivia).Passes none start gap rest n := by
  cases trivia with
  | strict => exact passes_skipAll_none h (hc rfl)
  | compatible => exact (passes_skipOnce h).bind_nil (passes_pure none _ _)

/-- Comments in the gap are entered, and so is the one that becomes a token. -/
theorem passes_scanToken_counted (hg : Gap trivia gap n (lexeme ++ rest))
    (hl : Lexeme trivia lexeme rest t) :
    (scanToken trivia).Passes ⟨t, start.advanceOver gap, start.advanceOver (gap ++ lexeme)⟩
      start (gap ++ lexeme) rest (n + if t = .unclosedComment then 1 else 0) := by
  by_cases ht : t = .unclosedComment
  · rw [if_pos ht]
    subst ht
    obtain ⟨rfl, rfl, hu⟩ := hl.of_unclosedComment
    rw [List.append_nil] at hg
    exact (passes_skipAll_some hg hu).bind_nil (passes_pure _ _ _)
  · have hc : trivia = .strict → ¬ ['/', '*'] <+: lexeme ++ rest := by
      rintro rfl
      exact hl.no_comment ht
    rw [if_neg ht, Position.advanceOver_append]
    exact (passes_skipTrivia hg hc).bind_free (passes_lexeme hl ht).located

theorem passes_scanToken (hg : Gap trivia gap n (lexeme ++ rest))
    (hl : Lexeme trivia lexeme rest t) :
    ∃ n, (scanToken trivia).Passes ⟨t, start.advanceOver gap, start.advanceOver (gap ++ lexeme)⟩
      start (gap ++ lexeme) rest n :=
  ⟨_, passes_scanToken_counted hg hl⟩

theorem passes_scanToken_eof (h : Gap trivia gap n []) :
    (scanToken trivia).Passes ⟨.eof, .point (start.advanceOver gap)⟩ start gap [] n := by
  have hp : Scan.Passes Lexer.lexeme .eof (start.advanceOver gap) [] [] 0 :=
    passes_cursor fun _ d hs _ => by
      have hc : d.current = none := hs.current
      rw [hc]
      exact passes_pure _ _ _
  exact (passes_skipTrivia h fun _ => by simp).bind_nil hp.located

theorem exists_passes (trivia : Trivia) (p : Position) (text : List Char) :
    ∃ taken rest t n, text = taken ++ rest ∧ (scanToken trivia).Passes t p taken rest n := by
  obtain ⟨gap, n, rest, rfl, hg⟩ := exists_gap trivia text
  cases rest with
  | nil => exact ⟨gap, [], _, n, rfl, passes_scanToken_eof hg⟩
  | cons c rest =>
    obtain ⟨lexeme, after, t, he, hl⟩ := exists_lexeme hg
    rw [he] at hg ⊢
    obtain ⟨n, hp⟩ := passes_scanToken hg hl
    exact ⟨gap ++ lexeme, after, _, n, by simp, hp⟩

end TokenDump.Lexer
