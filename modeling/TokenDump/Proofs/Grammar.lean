import Mathlib.Data.List.TakeWhile
import TokenDump.Span
import TokenDump.Lexer.Trivia
import TokenDump.Unicode.Property

/-! # The grammar of tokens

What a text consists of: gaps of blanks and comments, and between them lexemes, each the longest
that stands there. The two ways of skipping trivia differ in their gaps, and in what becomes of a
comment that nothing closes. Every text has such a segmentation. -/
namespace TokenDump.Lexer

/-- From the opening mark of a comment to the first closing one. -/
inductive BlockComment : List Char → Prop
  | intro {body : List Char} (first : ¬ ['*', '/'] <:+: body ++ ['*']) :
      BlockComment ('/' :: '*' :: (body ++ ['*', '/']))

/-- From the opening mark of a comment to the end of the text, with no closing mark. -/
inductive UnclosedComment : List Char → Prop
  | intro {body : List Char} (never : ¬ ['*', '/'] <:+: body) :
      UnclosedComment ('/' :: '*' :: body)

/-- A comment through the end of its line; the last line of a text may end with the text. -/
inductive LineComment : List Char → List Char → Prop
  | line {body rest : List Char} (first : '\n' ∉ body) :
      LineComment ('/' :: '/' :: (body ++ ['\n'])) rest
  | lastLine {body : List Char} (never : '\n' ∉ body) : LineComment ('/' :: '/' :: body) []

/-- All the blanks that stand before `rest`. -/
def Blanks (blanks rest : List Char) : Prop :=
  (∀ c ∈ blanks, isBlank c = true) ∧ ∀ c ∈ rest.head?, isBlank c = false

def Comment (comment rest : List Char) : Prop := BlockComment comment ∨ LineComment comment rest

/-- Blanks and comments in any order, with the number of comments, up to where neither follows. -/
inductive StrictGap : List Char → Nat → List Char → Prop
  | blanks {blanks rest : List Char} (all : Blanks blanks rest)
      (last : ∀ comment after, rest = comment ++ after → ¬ Comment comment after) :
      StrictGap blanks 0 rest
  | comment {blanks comment gap rest : List Char} {n : Nat}
      (all : Blanks blanks (comment ++ gap ++ rest)) (isComment : Comment comment (gap ++ rest))
      (more : StrictGap gap n rest) : StrictGap (blanks ++ comment ++ gap) (n + 1) rest

/-- A block comment and the blanks after it, where there is one. -/
inductive BlockPart : List Char → Nat → List Char → Prop
  | absent {rest : List Char} (h : ¬ ['/', '*'] <+: rest) : BlockPart [] 0 rest
  | closed {comment blanks rest : List Char} (h : BlockComment comment)
      (all : Blanks blanks rest) : BlockPart (comment ++ blanks) 1 rest
  | unclosed {comment : List Char} (h : UnclosedComment comment) : BlockPart comment 1 []

/-- A line comment and the blanks after it, where there is one. -/
inductive LinePart : List Char → Nat → List Char → Prop
  | absent {rest : List Char} (h : ¬ ['/', '/'] <+: rest) : LinePart [] 0 rest
  | present {comment blanks rest : List Char} (h : LineComment comment (blanks ++ rest))
      (all : Blanks blanks rest) : LinePart (comment ++ blanks) 1 rest

/-- Blanks, then at most one block comment, then at most one line comment. -/
inductive CompatibleGap : List Char → Nat → List Char → Prop
  | intro {blanks block line rest : List Char} {m n : Nat}
      (all : Blanks blanks (block ++ line ++ rest)) (blockPart : BlockPart block m (line ++ rest))
      (linePart : LinePart line n rest) : CompatibleGap (blanks ++ block ++ line) (m + n) rest

/-- What is skipped before `rest`, with the number of comments in it. -/
def Gap : Trivia → List Char → Nat → List Char → Prop
  | .strict => StrictGap
  | .compatible => CompatibleGap

def StartsWord (c : Char) : Prop := Unicode.isAlphabetic c = true ∨ c = '_'

def ContinuesWord (c : Char) : Prop := Unicode.isAlphanumeric c = true ∨ c = '_'

instance (c : Char) : Decidable (ContinuesWord c) :=
  inferInstanceAs (Decidable (Unicode.isAlphanumeric c = true ∨ c = '_'))

/-- A word that does not go on in `rest`. -/
inductive Word : List Char → List Char → Prop
  | intro {c : Char} {run rest : List Char} (start : StartsWord c)
      (continued : ∀ d ∈ run, ContinuesWord d) (maximal : ∀ d ∈ rest.head?, ¬ ContinuesWord d) :
      Word (c :: run) rest

/-- The lexeme that stands before `rest`, and the token that it makes. -/
inductive Lexeme (trivia : Trivia) : List Char → List Char → Token → Prop
  | keyword {rest : List Char} (word : Keyword) (h : Word word.spelling.toList rest) :
      Lexeme trivia word.spelling.toList rest ⟨.keyword word, word.spelling⟩
  | identifier {run rest : List Char} (h : Word run rest)
      (free : ∀ word : Keyword, word.spelling.toList ≠ run) :
      Lexeme trivia run rest ⟨.identifier, String.ofList run⟩
  | number {digits rest : List Char} (nonempty : digits ≠ [])
      (digit : ∀ d ∈ digits, d.isDigit = true) (maximal : ∀ d ∈ rest.head?, d.isDigit = false) :
      Lexeme trivia digits rest ⟨.number, String.ofList digits⟩
  | string {body rest : List Char} (first : '"' ∉ body) :
      Lexeme trivia ('"' :: (body ++ ['"'])) rest ⟨.string, String.ofList body⟩
  | unclosedString {body : List Char} (never : '"' ∉ body) :
      Lexeme trivia ('"' :: body) [] .unclosedString
  | operator {rest : List Char} (op : Operator)
      (longest : ∀ other : Operator, other.spelling.toList <+: op.spelling.toList ++ rest →
        other.spelling.toList.length ≤ op.spelling.toList.length) :
      Lexeme trivia op.spelling.toList rest ⟨.operator op, op.spelling⟩
  | delimiter {rest : List Char} (mark : Delimiter) :
      Lexeme trivia mark.spelling.toList rest ⟨.delimiter mark, mark.spelling⟩
  | unclosedComment {comment : List Char} (strict : trivia = .strict)
      (h : UnclosedComment comment) : Lexeme trivia comment [] .unclosedComment
  | illegal {c : Char} {rest : List Char} (noBlank : isBlank c = false) (noWord : ¬ StartsWord c)
      (noDigit : c.isDigit = false) (noQuote : c ≠ '"')
      (noOperator : ∀ op : Operator, ¬ op.spelling.toList <+: c :: rest)
      (noDelimiter : ∀ mark : Delimiter, mark.spelling.toList ≠ [c])
      (noComment : trivia = .strict → ¬ ['/', '*'] <+: c :: rest) :
      Lexeme trivia [c] rest (.illegal c.toString)

/-- The tokens of a text that begins at `p`, with the stretches that they cover. -/
inductive Segmentation (trivia : Trivia) : Position → List Char → List (Located Token) → Prop
  | eof {p : Position} {gap : List Char} {n : Nat} (skipped : Gap trivia gap n []) :
      Segmentation trivia p gap [⟨.eof, .point (p.advanceOver gap)⟩]
  | token {p : Position} {gap lexeme rest : List Char} {n : Nat} {t : Token}
      {ts : List (Located Token)} (skipped : Gap trivia gap n (lexeme ++ rest))
      (read : Lexeme trivia lexeme rest t)
      (more : Segmentation trivia (p.advanceOver (gap ++ lexeme)) rest ts) :
      Segmentation trivia p (gap ++ lexeme ++ rest)
        (⟨t, p.advanceOver gap, p.advanceOver (gap ++ lexeme)⟩ :: ts)

variable {trivia : Trivia} {text gap lexeme rest : List Char} {n : Nat} {t : Token}

theorem exists_blanks (text : List Char) :
    ∃ blanks rest, text = blanks ++ rest ∧ Blanks blanks rest := by
  refine ⟨text.takeWhile isBlank, text.dropWhile isBlank, ?_, ?_, ?_⟩
  · exact List.takeWhile_append_dropWhile.symm
  · exact fun c hc => List.mem_takeWhile_imp hc
  · intro c hc
    have := List.head?_dropWhile_not isBlank text
    rwa [hc] at this

theorem closed_or_unclosed (text : List Char) :
    (∃ body after, text = body ++ '*' :: '/' :: after ∧ ¬ ['*', '/'] <:+: body ++ ['*']) ∨
      ¬ ['*', '/'] <:+: text := by
  induction text with
  | nil => exact .inr (by simp)
  | cons c text ih =>
    by_cases hc : ['*', '/'] <+: c :: text
    · obtain ⟨after, h⟩ := hc
      exact .inl ⟨[], after, h.symm, by decide⟩
    · rcases ih with ⟨body, after, rfl, hb⟩ | hn
      · refine .inl ⟨c :: body, after, rfl, ?_⟩
        rw [List.cons_append, List.infix_cons_iff]
        rintro (h | h)
        · exact hc (h.trans ⟨'/' :: after, by simp⟩)
        · exact hb h
      · refine .inr ?_
        rw [List.infix_cons_iff]
        rintro (h | h)
        · exact hc h
        · exact hn h

theorem exists_lineComment (text : List Char) :
    ∃ comment after, '/' :: '/' :: text = comment ++ after ∧ LineComment comment after := by
  by_cases h : '\n' ∈ text
  · obtain ⟨body, after, rfl, hb⟩ := List.eq_append_cons_of_mem h
    exact ⟨_, after, by simp, .line hb⟩
  · exact ⟨_, [], by simp, .lastLine h⟩

theorem Comment.two_le {comment : List Char} (h : Comment comment rest) : 2 ≤ comment.length := by
  rcases h with h | h <;> cases h <;> simp

theorem exists_strictGap (text : List Char) :
    ∃ gap n rest, text = gap ++ rest ∧ StrictGap gap n rest := by
  induction hn : text.length using Nat.strongRecOn generalizing text with
  | _ size ih =>
    obtain ⟨blanks, rest, rfl, hb⟩ := exists_blanks text
    by_cases hc : ∃ comment after, rest = comment ++ after ∧ Comment comment after
    · obtain ⟨comment, after, rfl, hc⟩ := hc
      have hlt : after.length < size := by
        have := hc.two_le
        simp only [List.length_append] at hn
        omega
      obtain ⟨gap, n, rest, rfl, hg⟩ := ih _ hlt after rfl
      exact ⟨blanks ++ comment ++ gap, n + 1, rest, by simp, .comment (by simpa using hb) hc hg⟩
    · exact ⟨blanks, 0, rest, rfl, .blanks hb fun comment after h h' => hc ⟨comment, after, h, h'⟩⟩

theorem exists_blockPart (text : List Char) :
    ∃ block n rest, text = block ++ rest ∧ BlockPart block n rest := by
  by_cases h : ['/', '*'] <+: text
  · obtain ⟨body, rfl⟩ := h
    rcases closed_or_unclosed body with ⟨inner, after, rfl, hb⟩ | hn
    · obtain ⟨blanks, rest, rfl, hr⟩ := exists_blanks after
      exact ⟨_, 1, rest, by simp, .closed (.intro hb) hr⟩
    · exact ⟨_, 1, [], by simp, .unclosed (.intro hn)⟩
  · exact ⟨[], 0, text, rfl, .absent h⟩

theorem exists_linePart (text : List Char) :
    ∃ line n rest, text = line ++ rest ∧ LinePart line n rest := by
  by_cases h : ['/', '/'] <+: text
  · obtain ⟨body, rfl⟩ := h
    obtain ⟨comment, after, hc, hl⟩ := exists_lineComment body
    obtain ⟨blanks, rest, rfl, hr⟩ := exists_blanks after
    exact ⟨_, 1, rest, by simpa using hc, .present hl hr⟩
  · exact ⟨[], 0, text, rfl, .absent h⟩

theorem exists_compatibleGap (text : List Char) :
    ∃ gap n rest, text = gap ++ rest ∧ CompatibleGap gap n rest := by
  obtain ⟨blanks, tail, rfl, hb⟩ := exists_blanks text
  obtain ⟨block, m, tail, rfl, hm⟩ := exists_blockPart tail
  obtain ⟨line, n, rest, rfl, hn⟩ := exists_linePart tail
  exact ⟨blanks ++ block ++ line, m + n, rest, by simp, .intro (by simpa using hb) hm hn⟩

theorem exists_gap (trivia : Trivia) (text : List Char) :
    ∃ gap n rest, text = gap ++ rest ∧ Gap trivia gap n rest := by
  cases trivia with
  | strict => exact exists_strictGap text
  | compatible => exact exists_compatibleGap text

theorem Blanks.head_not_blank {blanks : List Char} {c : Char} (h : Blanks blanks (c :: rest)) :
    isBlank c = false := h.2 c rfl

theorem Gap.head_not_blank {c : Char} (h : Gap trivia gap n (c :: rest)) : isBlank c = false := by
  cases trivia with
  | strict =>
    generalize hr : c :: rest = r at h
    change StrictGap gap n r at h
    induction h with
    | blanks all last =>
      subst hr
      exact all.head_not_blank
    | comment all isComment more ih => exact ih hr
  | compatible =>
    obtain ⟨all, blockPart, linePart⟩ := h
    cases linePart with
    | present h all => exact all.head_not_blank
    | absent h =>
      cases blockPart with
      | closed h all => exact all.head_not_blank
      | absent h => exact all.head_not_blank

theorem StrictGap.no_comment (h : StrictGap gap n rest) (comment after : List Char)
    (hr : rest = comment ++ after) : ¬ Comment comment after := by
  induction h with
  | blanks all last => exact last comment after hr
  | comment all isComment more ih => exact ih hr

theorem StrictGap.unclosed {body : List Char} (h : StrictGap gap n ('/' :: '*' :: body)) :
    UnclosedComment ('/' :: '*' :: body) := by
  rcases closed_or_unclosed body with ⟨inner, after, rfl, hb⟩ | hn
  · exact absurd (.inl (.intro hb)) (h.no_comment ('/' :: '*' :: (inner ++ ['*', '/'])) after (by simp))
  · exact .intro hn

theorem exists_longest_operator {op : Operator} (h : op.spelling.toList <+: text) :
    ∃ best : Operator, best.spelling.toList <+: text ∧ ∀ other : Operator,
      other.spelling.toList <+: text → other.spelling.toList.length ≤ best.spelling.toList.length := by
  have hle : ∀ op : Operator, op.spelling.toList.length ≤ 2 := by
    intro op
    cases op <;> decide
  have hpos : ∀ op : Operator, 1 ≤ op.spelling.toList.length := by
    intro op
    cases op <;> decide
  by_cases htwo : ∃ best : Operator, best.spelling.toList <+: text ∧ best.spelling.toList.length = 2
  · obtain ⟨best, hb, hl⟩ := htwo
    exact ⟨best, hb, fun other _ => hl ▸ hle other⟩
  · refine ⟨op, h, fun other ho => ?_⟩
    have hn : other.spelling.toList.length ≠ 2 := fun hl => htwo ⟨other, ho, hl⟩
    have := hle other
    have := hpos op
    omega

/-- Some lexeme stands wherever neither a blank nor a comment to be skipped does. -/
theorem exists_lexeme {c : Char} (h : Gap trivia gap n (c :: rest)) :
    ∃ lexeme after t, c :: rest = lexeme ++ after ∧ Lexeme trivia lexeme after t := by
  by_cases hop : ∃ op : Operator, op.spelling.toList <+: c :: rest
  · obtain ⟨op, hop⟩ := hop
    obtain ⟨best, ⟨after, ha⟩, hbest⟩ := exists_longest_operator hop
    rw [← ha] at hbest
    exact ⟨_, after, _, ha.symm, .operator best hbest⟩
  by_cases hmark : ∃ mark : Delimiter, mark.spelling.toList = [c]
  · obtain ⟨mark, hmark⟩ := hmark
    exact ⟨mark.spelling.toList, rest, _, by simp [hmark], .delimiter mark⟩
  by_cases hq : c = '"'
  · subst hq
    by_cases hclose : '"' ∈ rest
    · obtain ⟨body, after, rfl, hb⟩ := List.eq_append_cons_of_mem hclose
      exact ⟨_, after, _, by simp, .string hb⟩
    · exact ⟨_, [], _, (List.append_nil _).symm, .unclosedString hclose⟩
  by_cases hw : StartsWord c
  · have hword : Word (c :: rest.takeWhile fun d => decide (ContinuesWord d))
        (rest.dropWhile fun d => decide (ContinuesWord d)) := by
      refine .intro hw (fun d hd => by simpa using List.mem_takeWhile_imp hd) fun d hd => ?_
      have := List.head?_dropWhile_not (fun d => decide (ContinuesWord d)) rest
      rw [hd] at this
      simpa using this
    have hsplit := (List.takeWhile_append_dropWhile (p := fun d => decide (ContinuesWord d))
      (l := rest)).symm
    by_cases hk : ∃ word : Keyword,
        word.spelling.toList = c :: rest.takeWhile fun d => decide (ContinuesWord d)
    · obtain ⟨word, hk⟩ := hk
      rw [← hk] at hword
      exact ⟨_, _, _, by rw [hk, List.cons_append, ← hsplit], .keyword word hword⟩
    · exact ⟨_, _, _, by rw [List.cons_append, ← hsplit],
        .identifier hword fun word h => hk ⟨word, h⟩⟩
  by_cases hd : c.isDigit = true
  · refine ⟨(c :: rest).takeWhile Char.isDigit, (c :: rest).dropWhile Char.isDigit, _,
      List.takeWhile_append_dropWhile.symm, .number (by simp [hd]) ?_ ?_⟩
    · exact fun d hd => List.mem_takeWhile_imp hd
    · intro d hd
      have := List.head?_dropWhile_not Char.isDigit (c :: rest)
      rwa [hd] at this
  by_cases hc : trivia = .strict ∧ ['/', '*'] <+: c :: rest
  · obtain ⟨rfl, body, hb⟩ := hc
    rw [← hb] at h ⊢
    exact ⟨_, [], _, (List.append_nil _).symm, .unclosedComment rfl (StrictGap.unclosed h)⟩
  · exact ⟨[c], rest, _, rfl, .illegal h.head_not_blank hw (by simpa using hd) hq
      (fun op hp => hop ⟨op, hp⟩) (fun mark hm => hmark ⟨mark, hm⟩) fun hs hp => hc ⟨hs, hp⟩⟩

theorem Lexeme.ne_nil (h : Lexeme trivia lexeme rest t) : lexeme ≠ [] := by
  cases h with
  | keyword word h => cases word <;> decide
  | identifier h free => cases h; simp
  | number nonempty digit maximal => exact nonempty
  | operator op longest => cases op <;> decide
  | delimiter mark => cases mark <;> decide
  | unclosedComment strict h => cases h; simp
  | _ => simp

theorem Lexeme.isEof (h : Lexeme trivia lexeme rest t) : t.isEof = false := by
  cases h <;> rfl

theorem exists_segmentation (trivia : Trivia) (p : Position) (text : List Char) :
    ∃ ts, Segmentation trivia p text ts := by
  induction hn : text.length using Nat.strongRecOn generalizing text p with
  | _ size ih =>
    obtain ⟨gap, n, rest, rfl, hg⟩ := exists_gap trivia text
    cases rest with
    | nil => exact ⟨_, by simpa using .eof hg⟩
    | cons c rest =>
      obtain ⟨lexeme, after, t, he, hl⟩ := exists_lexeme hg
      rw [he] at hg hn ⊢
      have hlt : after.length < size := by
        have := List.length_pos_iff.mpr hl.ne_nil
        simp only [List.length_append] at hn
        omega
      obtain ⟨ts, hts⟩ := ih _ hlt (p.advanceOver (gap ++ lexeme)) after rfl
      rw [← List.append_assoc]
      exact ⟨_, .token hg hl hts⟩

end TokenDump.Lexer
