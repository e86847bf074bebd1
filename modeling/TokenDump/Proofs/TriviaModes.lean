import TokenDump.Proofs.Boundaries
import TokenDump.Proofs.Segmentation

/-! # The two trivia modes

The two ways of skipping trivia give the same tokens where every gap is one that a single pass
takes whole. -/
namespace TokenDump

/-- The position stands in the whole text right before `text`. -/
def Position.Before (p : Position) (text whole : List Char) : Prop :=
  ∃ before, whole = before ++ text ∧ p = start.advanceOver before

theorem Position.Before.pass {p : Position} {taken text whole : List Char}
    (h : p.Before (taken ++ text) whole) : (p.advanceOver taken).Before text whole := by
  obtain ⟨before, rfl, rfl⟩ := h
  exact ⟨before ++ taken, by simp, by rw [advanceOver_append]⟩

theorem Position.Before.slice {p : Position} {taken text whole : List Char}
    (h : p.Before (taken ++ text) whole) :
    (Span.mk p (p.advanceOver taken)).slice whole = some taken := by
  obtain ⟨before, rfl, rfl⟩ := h
  rw [← advanceOver_append]
  exact Span.slice_between before taken text

/-- Two stretches at the front of a text that end at one position are the same. -/
theorem Position.advanceOver_inj {p : Position} {a b r s : List Char} (h : a ++ r = b ++ s)
    (hp : p.advanceOver a = p.advanceOver b) : a = b := by
  have hsize : Utf8.size a = Utf8.size b := by
    have := congrArg Position.offset hp
    simpa [offset_advanceOver] using this
  have hnil {c : List Char} (hc : Utf8.size c = 0) : c = [] := by
    by_contra hne
    exact absurd hc (Utf8.size_pos hne).ne'
  rcases List.append_eq_append_iff.mp h with ⟨c, rfl, -⟩ | ⟨c, rfl, -⟩
  · rw [Utf8.size_append] at hsize
    simp [hnil (c := c) (by omega)]
  · rw [Utf8.size_append] at hsize
    simp [hnil (c := c) (by omega)]

theorem Position.stretch_inj {p : Position} {gap lexeme rest gap' lexeme' rest' : List Char}
    (h : gap ++ lexeme ++ rest = gap' ++ lexeme' ++ rest')
    (hstart : p.advanceOver gap = p.advanceOver gap')
    (hstop : p.advanceOver (gap ++ lexeme) = p.advanceOver (gap' ++ lexeme')) :
    gap = gap' ∧ lexeme = lexeme' ∧ rest = rest' := by
  have hend : gap ++ lexeme = gap' ++ lexeme' := advanceOver_inj h hstop
  rw [← hend] at h
  obtain rfl := List.append_cancel_left h
  obtain rfl : gap = gap' := advanceOver_inj hend hstart
  exact ⟨rfl, List.append_cancel_left hend, rfl⟩

namespace Lexer

def AllBlank (blanks : List Char) : Prop := ∀ c ∈ blanks, isBlank c = true

/-- Perhaps a block comment, and blanks after it. -/
inductive BlockTail : List Char → Prop
  | absent : BlockTail []
  | present {comment blanks : List Char} (h : BlockComment comment) (all : AllBlank blanks) :
      BlockTail (comment ++ blanks)

/-- Perhaps a line comment, and blanks after it. -/
inductive LineTail : List Char → Prop
  | absent : LineTail []
  | present {comment blanks : List Char} (h : LineComment comment blanks) (all : AllBlank blanks) :
      LineTail (comment ++ blanks)

/-- Blanks, at most one block comment, blanks, at most one line comment, blanks. -/
inductive SingleGap : List Char → Prop
  | intro {blanks block line : List Char} (all : AllBlank blanks) (blockTail : BlockTail block)
      (lineTail : LineTail line) : SingleGap (blanks ++ block ++ line)

/-- Each token, with the text between it and the token before, or the start `p`. -/
def gaps (text : List Char) :
    Position → List (Located Token) → List (Option (List Char) × Located Token)
  | _, [] => []
  | p, t :: ts => (Span.slice ⟨p, t.span.start⟩ text, t) :: gaps text t.span.stop ts

variable {trivia : Trivia} {p : Position} {text whole gap lexeme rest comment blanks : List Char}
  {n m : Nat} {c : Char} {t : Token} {ts : List (Located Token)}

/-! ## One gap -/

theorem BlockComment.eq_of_prefix {a b : List Char} (ha : BlockComment a) (hb : BlockComment b)
    (h : b <+: a) : b = a := by
  obtain ⟨extra, rfl⟩ := h
  rcases List.eq_nil_or_concat extra with rfl | ⟨extra, c, rfl⟩
  · simp
  · obtain ⟨inner, rfl, -⟩ := hb.exists_body
    obtain ⟨body, he, first⟩ := ha.exists_body
    have he : (inner ++ ['*', '/'] ++ extra) ++ [c] = (body ++ ['*']) ++ ['/'] := by simpa using he
    exact absurd ⟨inner, extra, List.append_inj_left' he rfl⟩ first

theorem BlockComment.unique {a b r s : List Char} (ha : BlockComment a) (hb : BlockComment b)
    (h : a ++ r = b ++ s) : a = b := by
  rcases List.prefix_or_prefix_of_prefix (List.prefix_append a r) (h ▸ List.prefix_append b s)
    with hab | hba
  · exact hb.eq_of_prefix ha hab
  · exact (ha.eq_of_prefix hb hba).symm

/-! What is left of filler once its front is taken off. -/

theorem Filler.of_blank (h : Filler trivia (c :: rest)) (hc : isBlank c = true) :
    Filler trivia rest := by
  generalize hx : c :: rest = text at h
  cases h with
  | nil => simp at hx
  | blank isBlank filler =>
    obtain ⟨-, rfl⟩ := List.cons.inj hx
    exact filler
  | block strict isComment filler =>
    obtain ⟨body, rfl, -⟩ := isComment.exists_body
    obtain ⟨rfl, -⟩ := List.cons.inj hx
    exact absurd hc (by decide)
  | line strict first filler =>
    obtain ⟨rfl, -⟩ := List.cons.inj hx
    exact absurd hc (by decide)

theorem Filler.of_blanks (h : Filler trivia (blanks ++ rest)) (hb : AllBlank blanks) :
    Filler trivia rest := by
  induction blanks with
  | nil => exact h
  | cons c blanks ih =>
    exact ih (h.of_blank (hb c List.mem_cons_self)) fun d hd => hb d (List.mem_cons_of_mem c hd)

theorem Filler.of_slash (h : Filler trivia ('/' :: rest)) :
    (∃ comment more, '/' :: rest = comment ++ more ∧ BlockComment comment ∧ Filler trivia more) ∨
      ∃ body more, rest = '/' :: (body ++ '\n' :: more) ∧ '\n' ∉ body ∧ Filler trivia more := by
  generalize hx : '/' :: rest = text at h
  cases h with
  | nil => simp at hx
  | blank isBlank filler =>
    obtain ⟨rfl, -⟩ := List.cons.inj hx
    exact absurd isBlank (by decide)
  | block strict isComment filler => exact .inl ⟨_, _, rfl, isComment, filler⟩
  | line strict first filler => exact .inr ⟨_, _, (List.cons.inj hx).2, first, filler⟩

theorem Filler.of_block (h : Filler trivia (comment ++ rest)) (hc : BlockComment comment) :
    Filler trivia rest := by
  obtain ⟨body, rfl, -⟩ := hc.exists_body
  rcases h.of_slash with ⟨comment, more, he, hcomment, hmore⟩ | ⟨inner, more, he, -, -⟩
  · have he : '/' :: '*' :: (body ++ ['*', '/']) ++ rest = comment ++ more := he
    obtain rfl := hc.unique hcomment he
    obtain rfl := List.append_cancel_left he
    exact hmore
  · simp at he

theorem Filler.newline_of_line {body : List Char} (h : Filler trivia ('/' :: '/' :: body)) :
    '\n' ∈ body := by
  rcases h.of_slash with ⟨comment, more, he, hcomment, -⟩ | ⟨inner, more, he, -, -⟩
  · obtain ⟨inner, rfl, -⟩ := hcomment.exists_body
    simp at he
  · obtain rfl := (List.cons.inj he).2
    simp

/-- A gap that ends with the text has no comment that nothing closes. -/
theorem StrictGap.not_unclosed (h : StrictGap (blanks ++ comment) n []) (hb : AllBlank blanks)
    (hc : UnclosedComment comment) : False := by
  have hf : Filler .strict (blanks ++ (comment ++ ['\n'])) := by simpa using h.filler_newline
  obtain ⟨body, rfl, never⟩ := hc.exists_body
  rcases (hf.of_blanks hb).of_slash with ⟨comment, more, he, hcomment, -⟩ | ⟨inner, more, he, -, -⟩
  · obtain ⟨inner, rfl, -⟩ := hcomment.exists_body
    have he : body ++ ['\n'] = inner ++ ['*', '/'] ++ more := by simpa using he
    rcases List.infix_concat_iff.mp ⟨inner, more, he.symm⟩ with hlast | hin
    · simpa using hlast.getLast (by simp)
    · exact never hin
  · simp at he

theorem Filler.of_blockTail {block : List Char} (h : Filler trivia (block ++ rest))
    (hb : BlockTail block) : Filler trivia rest := by
  cases hb with
  | absent => exact h
  | present hc all =>
    rw [List.append_assoc] at h
    exact (h.of_block hc).of_blanks all

/-- A line comment that no newline ends stands last in the text. -/
theorem StrictGap.lastLine {block body : List Char}
    (h : StrictGap (blanks ++ block ++ '/' :: '/' :: body) n rest) (hb : AllBlank blanks)
    (hblock : BlockTail block) (never : '\n' ∉ body) : rest = [] := by
  by_contra hr
  have hf : Filler .strict (blanks ++ (block ++ '/' :: '/' :: body)) := by
    simpa using h.filler hr
  exact never ((hf.of_blanks hb).of_blockTail hblock).newline_of_line

theorem LineComment.nearer (h : LineComment comment (blanks ++ rest)) :
    LineComment comment blanks := by
  generalize hx : blanks ++ rest = after at h
  cases h with
  | line first => exact .line first
  | lastLine never =>
    obtain ⟨rfl, -⟩ := List.append_eq_nil_iff.mp hx
    exact .lastLine never

/-- A gap of both modes is taken by a single pass. -/
theorem CompatibleGap.single (h : CompatibleGap gap m rest) (hs : StrictGap gap n rest) :
    SingleGap gap := by
  obtain @⟨blanks, block, line, rest, m, k, all, blockPart, linePart⟩ := h
  have hline : LineTail line := by
    cases linePart with
    | absent => exact .absent
    | present h all => exact .present h.nearer all.1
  generalize hx : line ++ rest = after at blockPart
  cases blockPart with
  | absent => exact .intro all.1 .absent hline
  | closed h all' => exact .intro all.1 (.present h all'.1) hline
  | unclosed h =>
    obtain ⟨rfl, rfl⟩ := List.append_eq_nil_iff.mp hx
    rw [List.append_nil] at hs
    exact (hs.not_unclosed all.1 h).elim

theorem LineTail.head_not_blank {line : List Char} (h : LineTail line)
    (hr : ∀ c ∈ rest.head?, isBlank c = false) :
    ∀ c ∈ (line ++ rest).head?, isBlank c = false := by
  cases h with
  | absent => exact hr
  | present hline =>
    have hc : Comment _ _ := .inr hline
    rw [List.append_assoc]
    exact hc.head_not_blank _

theorem BlockTail.head_not_blank {block : List Char} (h : BlockTail block)
    (hr : ∀ c ∈ rest.head?, isBlank c = false) :
    ∀ c ∈ (block ++ rest).head?, isBlank c = false := by
  cases h with
  | absent => exact hr
  | present hblock =>
    have hc : Comment _ [] := .inl hblock
    rw [List.append_assoc]
    exact hc.head_not_blank _

theorem LineTail.not_block {line : List Char} (h : LineTail line) (hr : ¬ ['/', '*'] <+: rest) :
    ¬ ['/', '*'] <+: line ++ rest := by
  cases h with
  | absent => exact hr
  | present hline =>
    rw [List.append_assoc]
    exact not_block_of_line (hline.mark _)

theorem LineTail.linePart {block line : List Char} (h : LineTail line)
    (hg : StrictGap (blanks ++ block ++ line) n rest) (hb : AllBlank blanks)
    (hblock : BlockTail block) (hr : ∀ c ∈ rest.head?, isBlank c = false) :
    ∃ k, LinePart line k rest := by
  cases h with
  | absent => exact ⟨0, .absent hg.not_line⟩
  | present hline all =>
    refine ⟨1, .present ?_ ⟨all, hr⟩⟩
    cases hline with
    | line first => exact .line first
    | lastLine never =>
      rw [List.append_nil] at hg
      rw [hg.lastLine hb hblock never]
      exact .lastLine never

theorem BlockTail.blockPart {block : List Char} (h : BlockTail block)
    (hc : ¬ ['/', '*'] <+: rest) (hr : ∀ c ∈ rest.head?, isBlank c = false) :
    ∃ k, BlockPart block k rest := by
  cases h with
  | absent => exact ⟨0, .absent hc⟩
  | present hblock all => exact ⟨1, .closed hblock ⟨all, hr⟩⟩

theorem SingleGap.compatible (hg : SingleGap gap) (h : StrictGap gap n rest)
    (hc : ¬ ['/', '*'] <+: rest) : ∃ m, CompatibleGap gap m rest := by
  obtain ⟨all, blockTail, lineTail⟩ := hg
  have hrest : ∀ c ∈ rest.head?, isBlank c = false := by
    intro c hc
    obtain ⟨tail, rfl⟩ := List.head?_eq_some_iff.mp hc
    have hg : Gap .strict _ n (c :: tail) := h
    exact hg.head_not_blank
  have hline := lineTail.head_not_blank hrest
  have hblock := blockTail.head_not_blank hline
  obtain ⟨k, linePart⟩ := lineTail.linePart h all blockTail hrest
  obtain ⟨j, blockPart⟩ := blockTail.blockPart (lineTail.not_block hc) hline
  exact ⟨j + k, .intro ⟨all, by simpa using hblock⟩ blockPart linePart⟩

/-! ## All gaps of a text -/

/-- All gaps before these tokens are single. -/
def SingleGaps (text : List Char) (p : Position) (ts : List (Located Token)) : Prop :=
  ∀ g ∈ gaps text p ts, ∃ gap, g.1 = some gap ∧ SingleGap gap

/-- Nothing but blanks stands before a comment that nothing closes. -/
def BlankBeforeUnclosed (text : List Char) (p : Position) (ts : List (Located Token)) : Prop :=
  ∀ g ∈ gaps text p ts, g.2.value = .unclosedComment → ∃ gap, g.1 = some gap ∧ AllBlank gap

theorem gaps_cons {u : Located Token} (h : p.Before (gap ++ rest) whole)
    (hu : u.span.start = p.advanceOver gap) :
    gaps whole p (u :: ts) = (some gap, u) :: gaps whole u.span.stop ts := by
  rw [gaps, hu, h.slice]

theorem mem_of_mem_gaps {g : Option (List Char) × Located Token} (h : g ∈ gaps whole p ts) :
    g.2 ∈ ts := by
  induction ts generalizing p with
  | nil => simp [gaps] at h
  | cons t ts ih =>
    rcases List.mem_cons.mp h with rfl | h
    · exact List.mem_cons_self
    · exact List.mem_cons_of_mem t (ih h)

theorem forall_gaps_cons {P : Option (List Char) × Located Token → Prop} {u : Located Token}
    (h : p.Before (gap ++ rest) whole) (hu : u.span.start = p.advanceOver gap) :
    (∀ g ∈ gaps whole p (u :: ts), P g) ↔
      P (some gap, u) ∧ ∀ g ∈ gaps whole u.span.stop ts, P g := by
  rw [gaps_cons h hu, List.forall_mem_cons]

theorem singleGaps_cons {u : Located Token} (h : p.Before (gap ++ rest) whole)
    (hu : u.span.start = p.advanceOver gap) :
    SingleGaps whole p (u :: ts) ↔ SingleGap gap ∧ SingleGaps whole u.span.stop ts :=
  (forall_gaps_cons h hu).trans (and_congr_left' (by simp))

theorem blankBeforeUnclosed_cons {u : Located Token} (h : p.Before (gap ++ rest) whole)
    (hu : u.span.start = p.advanceOver gap) :
    BlankBeforeUnclosed whole p (u :: ts) ↔ (u.value = .unclosedComment → AllBlank gap) ∧
      BlankBeforeUnclosed whole u.span.stop ts :=
  (forall_gaps_cons h hu).trans (and_congr_left' (by simp))

theorem Segmentation.cases_cons {u : Located Token} (h : Segmentation trivia p text (u :: ts)) :
    (u = ⟨.eof, .point (p.advanceOver text)⟩ ∧ ts = [] ∧ ∃ n, Gap trivia text n []) ∨
      ∃ gap lexeme rest n, text = gap ++ lexeme ++ rest ∧ Gap trivia gap n (lexeme ++ rest) ∧
        Lexeme trivia lexeme rest u.value ∧
        u.span = ⟨p.advanceOver gap, p.advanceOver (gap ++ lexeme)⟩ ∧
        Segmentation trivia (p.advanceOver (gap ++ lexeme)) rest ts := by
  generalize hx : u :: ts = us at h
  cases h with
  | eof skipped =>
    obtain ⟨rfl, rfl⟩ := List.cons.inj hx
    exact .inl ⟨rfl, rfl, _, skipped⟩
  | token skipped read more =>
    obtain ⟨rfl, rfl⟩ := List.cons.inj hx
    exact .inr ⟨_, _, _, _, rfl, skipped, read, rfl, more⟩

theorem eof_ne_unclosedComment : Token.eof ≠ .unclosedComment := by decide

theorem Segmentation.no_unclosed (h : Segmentation .compatible p text ts) :
    ∀ t ∈ ts, t.value ≠ .unclosedComment := by
  induction h with
  | eof skipped => simp [eof_ne_unclosedComment]
  | token skipped read more ih =>
    refine List.forall_mem_cons.mpr ⟨?_, ih⟩
    rintro rfl
    exact absurd read.of_unclosedComment.1 (by simp)

/-- Where the two modes give the same tokens, they skip the same gaps. -/
theorem Segmentation.singleGaps (h : Segmentation .strict p text ts)
    (h' : Segmentation .compatible p text ts) (hw : p.Before text whole) :
    SingleGaps whole p ts := by
  induction h with
  | @eof p gap n skipped =>
    have hgap : SingleGap gap := by
      obtain ⟨-, -, m, hm⟩ | ⟨_, _, _, _, -, -, read, -⟩ := h'.cases_cons
      · exact CompatibleGap.single hm skipped
      · exact absurd read.isEof (by simp [Token.isEof, Token.eof])
    rw [← List.append_nil gap] at hw
    exact (singleGaps_cons hw rfl).mpr ⟨hgap, by simp [SingleGaps, gaps]⟩
  | @token p gap lexeme rest n t ts skipped read more ih =>
    obtain ⟨hu, -⟩ | ⟨gap', lexeme', rest', m, htext, skipped', -, hspan, more'⟩ := h'.cases_cons
    · obtain ⟨rfl, -⟩ := Located.mk.inj hu
      exact absurd read.isEof (by simp [Token.isEof, Token.eof])
    · obtain ⟨hstart, hstop⟩ := Span.mk.inj hspan
      obtain ⟨rfl, rfl, rfl⟩ := Position.stretch_inj htext hstart hstop
      have hgap : SingleGap gap := CompatibleGap.single skipped' skipped
      have hrest := ih more' hw.pass
      rw [List.append_assoc] at hw
      exact (singleGaps_cons hw rfl).mpr ⟨hgap, hrest⟩

theorem Lexeme.compatible (h : Lexeme .strict lexeme rest t) (ht : t ≠ .unclosedComment) :
    Lexeme .compatible lexeme rest t := by
  cases h with
  | keyword word h => exact .keyword word h
  | identifier h free => exact .identifier h free
  | number nonempty digit maximal => exact .number nonempty digit maximal
  | string first => exact .string first
  | unclosedString never => exact .unclosedString never
  | operator op longest => exact .operator op longest
  | delimiter mark => exact .delimiter mark
  | unclosedComment strict h => exact absurd rfl ht
  | illegal noBlank noWord noDigit noQuote noOperator noDelimiter noComment =>
    exact .illegal noBlank noWord noDigit noQuote noOperator noDelimiter (by simp)

/-- In compatible mode a comment that nothing closes is the block comment of the last gap. -/
theorem UnclosedComment.compatibleGap (h : UnclosedComment comment) (hb : AllBlank blanks) :
    CompatibleGap (blanks ++ comment) 1 [] := by
  have hhead : ∀ c ∈ comment.head?, isBlank c = false := by
    obtain ⟨body, rfl, -⟩ := h.exists_body
    simp [isBlank]
  have hline : LinePart [] 0 [] := .absent (by simp)
  simpa using CompatibleGap.intro ⟨hb, by simpa using hhead⟩ (.unclosed h) hline

theorem Segmentation.compatible (h : Segmentation .strict p text ts) (hw : p.Before text whole)
    (hs : SingleGaps whole p ts) (hb : BlankBeforeUnclosed whole p ts) :
    Segmentation .compatible p text (ts.filter (·.value ≠ .unclosedComment)) := by
  induction h with
  | @eof p gap n skipped =>
    rw [← List.append_nil gap] at hw
    obtain ⟨hgap, -⟩ := (singleGaps_cons hw rfl).mp hs
    obtain ⟨m, hm⟩ := hgap.compatible skipped (by simp)
    exact .eof hm
  | @token p gap lexeme rest n t ts skipped read more ih =>
    have hrest := hw.pass
    rw [List.append_assoc] at hw
    obtain ⟨hgap, hs⟩ := (singleGaps_cons hw rfl).mp hs
    obtain ⟨hblank, hb⟩ := (blankBeforeUnclosed_cons hw rfl).mp hb
    have hmore := ih hrest hs hb
    by_cases ht : t = .unclosedComment
    · subst ht
      obtain ⟨-, rfl, hu⟩ := read.of_unclosedComment
      have hgap : Gap .compatible (gap ++ lexeme) 1 [] := hu.compatibleGap (hblank rfl)
      rw [more.of_nil]
      simpa [eof_ne_unclosedComment] using Segmentation.eof hgap
    · rw [List.filter_cons_of_pos (by simpa using ht)]
      obtain ⟨m, hm⟩ := hgap.compatible skipped (read.no_comment ht)
      exact .token hm (read.compatible ht) hmore

/-- A comment that nothing closes is followed by the end token only. -/
theorem Segmentation.unclosed_last (h : Segmentation trivia p text ts)
    {before : List (Located Token)} {u eof : Located Token} (hts : ts = before ++ [u, eof]) :
    ∀ v ∈ before, v.value ≠ .unclosedComment := by
  induction h generalizing before with
  | eof skipped => simpa using congrArg List.length hts
  | token skipped read more ih =>
    cases before with
    | nil => simp
    | cons v before =>
      obtain ⟨rfl, rfl⟩ := List.cons.inj hts
      refine List.forall_mem_cons.mpr ⟨?_, ih rfl⟩
      rintro rfl
      obtain ⟨-, rfl, -⟩ := read.of_unclosedComment
      simpa using congrArg List.length more.of_nil

theorem Segmentation.filter_unclosed {before : List (Located Token)} {u eof : Located Token}
    (h : Segmentation trivia p text (before ++ [u, eof])) (hu : u.value = .unclosedComment) :
    (before ++ [u, eof]).filter (·.value ≠ .unclosedComment) = before ++ [eof] := by
  have hbefore := h.unclosed_last rfl
  have heof : eof.value ≠ .unclosedComment := by
    obtain ⟨front, hfront, -⟩ := h.covers
    rw [List.append_cons] at hfront
    obtain rfl := List.head_eq_of_cons_eq (List.append_inj_right' hfront rfl)
    exact eof_ne_unclosedComment
  rw [List.filter_append, List.filter_eq_self.mpr fun v hv => by simpa using hbefore v hv]
  simp [hu, heof]

/-- The two modes give the same tokens just when every gap is single and no comment is left open.
When the gaps are single and one comment is left open, behind nothing but blanks, the compatible
mode lacks just its token. -/
theorem drain_triviaModes (text : String) (settings : Settings.Scanning) :
    let strict := (ofText text { settings with trivia := .strict }).drain
    let compatible := (ofText text { settings with trivia := .compatible }).drain
    strict.2.1 = none ∧ compatible.2.1 = none ∧
    (strict.1 = compatible.1 ↔ (∀ t ∈ strict.1, t.value ≠ .unclosedComment) ∧
      SingleGaps text.toList .start strict.1) ∧
    ∀ before t eof, strict.1 = before ++ [t, eof] → t.value = .unclosedComment →
      SingleGaps text.toList .start strict.1 →
      BlankBeforeUnclosed text.toList .start strict.1 → compatible.1 = before ++ [eof] := by
  intro strict compatible
  have hstrict {ts} (h : Segmentation .strict .start text.toList ts) :
      strict.1 = ts ∧ strict.2.1 = none := drain_ofText h
  have hcompatible {ts} (h : Segmentation .compatible .start text.toList ts) :
      compatible.1 = ts ∧ compatible.2.1 = none := drain_ofText h
  obtain ⟨ts, hts⟩ := exists_segmentation .strict .start text.toList
  obtain ⟨us, hus⟩ := exists_segmentation .compatible .start text.toList
  have hw : Position.start.Before text.toList text.toList := ⟨[], rfl, rfl⟩
  rw [(hstrict hts).1]
  refine ⟨(hstrict hts).2, (hcompatible hus).2, ⟨fun he => ?_, fun ⟨hclosed, hs⟩ => ?_⟩, ?_⟩
  · obtain rfl : ts = us := he.trans (hcompatible hus).1
    exact ⟨hus.no_unclosed, hts.singleGaps hus hw⟩
  · have hb : BlankBeforeUnclosed text.toList .start ts := fun g hg hu =>
      absurd hu (hclosed g.2 (mem_of_mem_gaps hg))
    have hall : ts.filter (·.value ≠ .unclosedComment) = ts :=
      List.filter_eq_self.mpr fun t ht => by simpa using hclosed t ht
    exact hall ▸ (hcompatible (hts.compatible hw hs hb)).1.symm
  · rintro before t eof rfl ht hs hb
    rw [(hcompatible (hts.compatible hw hs hb)).1, hts.filter_unclosed ht]

theorem drain_triviaModes_blank :
    (ofText " /*b" ⟨.compatible, true, true⟩).drain.1 = [⟨.eof, .point ⟨4, 1, 5⟩⟩] := by
  have hstrict : (ofText " /*b" ⟨.strict, true, true⟩).drain.1 =
      [] ++ [⟨.unclosedComment, ⟨1, 1, 2⟩, ⟨4, 1, 5⟩⟩, ⟨.eof, .point ⟨4, 1, 5⟩⟩] := by
    decide +kernel
  have hgaps : gaps " /*b".toList .start (ofText " /*b" ⟨.strict, true, true⟩).drain.1 =
      [(some [' '], ⟨.unclosedComment, ⟨1, 1, 2⟩, ⟨4, 1, 5⟩⟩),
        (some [], ⟨.eof, .point ⟨4, 1, 5⟩⟩)] := by decide +kernel
  have hnil : AllBlank [] := by simp [AllBlank]
  have hspace : AllBlank [' '] := by simp [AllBlank, isBlank]
  have hsingle {blanks : List Char} (h : AllBlank blanks) : SingleGap blanks := by
    simpa using SingleGap.intro h .absent .absent
  refine (drain_triviaModes " /*b" ⟨.compatible, true, true⟩).2.2.2 _ _ _ hstrict rfl ?_ ?_
  · rw [SingleGaps, hgaps]
    simp [hsingle hnil, hsingle hspace]
  · rw [BlankBeforeUnclosed, hgaps]
    simp [hnil, hspace]

-- one pass takes only the first of two line comments
example : (ofText "//a\n//b" ⟨.strict, true, true⟩).drain.1 ≠
    (ofText "//a\n//b" ⟨.compatible, true, true⟩).drain.1 := by decide +kernel

end Lexer
end TokenDump
