import TokenDump.Proofs.Buffering
import TokenDump.Proofs.Counting

/-! # Metrics of a whole text

Once a lexer on a text has scanned the end token, its tally tells the lines of the text and the
comments in its gaps. -/
namespace TokenDump.Lexer

open Cursor

/-- The number of comments in the gaps of a text. One that nothing closes is among them, even where
it is a token. -/
inductive Commented (trivia : Trivia) : List Char → Nat → Prop
  | eof {gap : List Char} {n : Nat} (skipped : Gap trivia gap n []) : Commented trivia gap n
  | token {gap lexeme rest : List Char} {n m : Nat} {t : Token}
      (skipped : Gap trivia gap n (lexeme ++ rest)) (read : Lexeme trivia lexeme rest t)
      (more : Commented trivia rest m) :
      Commented trivia (gap ++ lexeme ++ rest) (n + (if t = .unclosedComment then 1 else 0) + m)

/-- A lexer that was just made. -/
inductive Fresh (settings : Settings.Scanning) : Lexer → Prop
  | ofFeed {feed : Feed} {l : Lexer} (made : (Lexer.ofFeed feed settings).1 = .ok l) :
      Fresh settings l
  | ofText (text : String) : Fresh settings (Lexer.ofText text settings)

/-- A lexer that was just made on a text, which is in memory or handed out by a feed. -/
inductive FreshOn (settings : Settings.Scanning) (text : String) : Lexer → Prop
  | ofFeed {feed : Feed} {l : Lexer} (delivered : feed.Delivers (Utf8.encode text.toList) [])
      (made : (Lexer.ofFeed feed settings).1 = .ok l) : FreshOn settings text l
  | ofText : FreshOn settings text (Lexer.ofText text settings)

/-- The lexer goes on in a text that ends at `stop`, and will have entered `total` comments there. -/
def Underway (trivia : Trivia) (total : Nat) (stop : Position) (l : Lexer) : Prop :=
  ∃ p rest m, l.Reads none p rest ∧ l.settings.trivia = trivia ∧ Commented trivia rest m ∧
    l.tally.comments + m = total ∧ p.advanceOver rest = stop

/-- How far a session on a text has come: the text goes on, or the end token was scanned, or the
lexer was closed before. -/
inductive Stage (trivia : Trivia) (total : Nat) (stop : Position)
    (scanned : List (Located Token)) (l : Lexer) : Prop
  | underway (goesOn : Underway trivia total stop l) (noEof : ∀ t ∈ scanned, t.value.isEof = false)
  | finished {t : Located Token} (ended : Ended l) (last : scanned.getLast? = some t)
      (stops : t.span.stop = stop) (comments : l.tally.comments = total)
  | closed (ended : Ended l) (noEof : ∀ t ∈ scanned, t.value.isEof = false)

variable {trivia : Trivia} {p stop : Position} {text : List Char} {ts scanned : List (Located Token)}
  {l : Lexer} {total n : Nat} {settings : Settings.Scanning}

theorem Segmentation.exists_commented (h : Segmentation trivia p text ts) :
    ∃ n, Commented trivia text n := by
  induction h with
  | eof skipped => exact ⟨_, .eof skipped⟩
  | token skipped read more ih =>
    obtain ⟨m, hm⟩ := ih
    exact ⟨_, .token skipped read hm⟩

theorem comments_record (m : Tally) (t : Located Token) : (m.record t).comments = m.comments := by
  rw [Tally.record]
  split
  · rfl
  · rw [Tally.count]
    split <;> rfl

theorem comments_next {t : Located Token} {q : Progress}
    (h : l.next = ⟨.ok t, ((l.passed q).record t).1, ((l.passed q).record t).2⟩) :
    l.next.lexer.tally.comments = q.comments := by
  rw [h, record_lexer]
  cases (l.passed q).settings.collectMetrics with
  | false => rfl
  | true => exact comments_record _ _

/-- A token is scanned, or the end token, and then all comments have been entered. -/
theorem Underway.next (h : Underway trivia total stop l) : ∃ t, l.next.result = .ok t ∧
    (t.value.isEof = false ∧ Underway trivia total stop l.next.lexer ∨
      t.value.isEof = true ∧ t.span.stop = stop ∧ Ended l.next.lexer ∧
        l.next.lexer.tally.comments = total) := by
  obtain ⟨p, rest, m, hl, rfl, hrest, htotal, hstop⟩ := h
  cases hrest with
  | eof skipped =>
    rw [← List.append_nil rest] at hl
    obtain ⟨q, -, -, hentered, hnext⟩ := hl.next_ok (passes_scanToken_eof skipped) (by simp)
    have hcomments := (comments_next hnext).trans (hentered.trans htotal)
    refine ⟨_, congrArg Step.result hnext, .inr ⟨rfl, hstop, ?_, hcomments⟩⟩
    rw [hnext, record_lexer]
    exact ⟨hl.failure, by simp [Token.isEof, Token.eof]⟩
  | @token gap lexeme rest k m t skipped read more =>
    have hp : (scanToken l.settings.trivia).Passes _ p (gap ++ lexeme) rest _ :=
      passes_scanToken_counted skipped read
    obtain ⟨q, -, -, hentered, hnext⟩ := hl.next_ok hp (by simp)
    obtain ⟨hresult, hreads, hsettings⟩ := hl.next hp read.isEof (by simp)
    have hcomments := (comments_next hnext).trans hentered
    refine ⟨_, hresult, .inl ⟨read.isEof, ?_⟩⟩
    refine ⟨_, rest, m, hreads, congrArg _ hsettings, more, by omega, ?_⟩
    rw [← hstop, Position.advanceOver_append p (gap ++ lexeme) rest]

theorem Underway.same {m : Lexer} (h : Underway trivia total stop l) (hs : m.settings = l.settings)
    (hc : m.cursor = l.cursor) (ht : m.tally = l.tally) (hf : m.failure = l.failure)
    (hd : m.isDone = l.isDone) : Underway trivia total stop m := by
  obtain ⟨p, rest, n, hl, htrivia, hrest, htotal, hstop⟩ := h
  refine ⟨p, rest, n, ⟨hf.trans hl.failure, hd.trans hl.isDone, hc ▸ hl.shown, ?_⟩,
    hs ▸ htrivia, hrest, ht ▸ htotal, hstop⟩
  rw [position, hc]
  exact hl.position

theorem Underway.isOpen (h : Underway trivia total stop l) :
    l.failure = none ∧ l.isDone = false := by
  obtain ⟨p, rest, m, hl, -⟩ := h
  exact ⟨hl.failure, hl.isDone⟩

theorem Stage.perform (h : Stage trivia total stop scanned l) (call : Call) :
    Stage trivia total stop (scanned ++ (l.perform call).scanned) (l.perform call).after := by
  cases h with
  | underway goesOn noEof =>
    cases ha : l.asks call with
    | false =>
      rw [scanned_of_not_asks ha, List.append_nil]
      cases call with
      | close => exact .closed ⟨goesOn.isOpen.1, rfl⟩ noEof
      | pull =>
        rw [perform_drained (by simpa [asks] using ha)]
        exact .underway goesOn noEof
      | look => exact .underway goesOn noEof
      | next => simp [asks] at ha
      | nextToken => simp [asks] at ha
    | true =>
      obtain ⟨hf, hd⟩ := goesOn.isOpen
      obtain ⟨hs, -⟩ := perform_of_asks ha
      obtain ⟨t, hresult, hnext⟩ := goesOn.next
      have hscanned : (l.perform call).scanned = [t] := by
        rw [scanned_of_open ha hf hd, hresult]
        rfl
      rw [hscanned]
      rcases hnext with ⟨ht, hmore⟩ | ⟨ht, hstop, hended, hcomments⟩
      · refine .underway (hmore.same ((l.settings_perform call).trans l.settings_next.symm)
          hs.cursor hs.tally hs.failure hs.isDone) ?_
        simpa [or_imp, forall_and] using ⟨noEof, ht⟩
      · refine .finished ⟨hs.failure.trans hended.failure, hs.isDone.trans hended.isDone⟩
          (by simp) hstop ?_
        rw [hs.tally, hcomments]
  | finished ended last stops comments =>
    obtain ⟨hended, -, htally, -⟩ := ended.perform call
    rw [scanned_of_stopped (.inr ended.isDone), List.append_nil]
    exact .finished hended last stops (htally ▸ comments)
  | closed ended noEof =>
    obtain ⟨hended, -⟩ := ended.perform call
    rw [scanned_of_stopped (.inr ended.isDone), List.append_nil]
    exact .closed hended noEof

theorem Stage.session {past rest : List Entry} {calls : List Call} {e : Entry}
    (h : Stage trivia total stop [] l) (hs : l.session calls = past ++ e :: rest) :
    Stage trivia total stop ((past ++ [e]).flatMap Entry.scanned) e.after := by
  have hstep (past : List Entry) (l : Lexer) (call : Call)
      (h : Stage trivia total stop (past.flatMap Entry.scanned) l) :
      Stage trivia total stop ((past ++ [l.perform call]).flatMap Entry.scanned)
        (l.perform call).after := by
    simpa using h.perform call
  exact session_trace (I := fun past => Stage trivia total stop (past.flatMap Entry.scanned))
    hstep h hs

theorem FreshOn.reads {text : String} (h : FreshOn settings text l) :
    l.Reads none .start text.toList ∧ l.settings = settings ∧ l.tally = .zero := by
  cases h with
  | @ofFeed feed l delivered made =>
    obtain ⟨c, hprime, hholds, hpos⟩ := Cursor.prime_delivered delivered
    rw [Lexer.ofFeed, hprime] at made
    obtain rfl := Except.ok.inj made
    exact ⟨⟨rfl, rfl, hholds.shows, hpos⟩, rfl, rfl⟩
  | ofText => exact ⟨reads_ofText text settings, rfl, rfl⟩

theorem FreshOn.underway {text : String} (h : FreshOn settings text l)
    (hn : Commented settings.trivia text.toList n) :
    Underway settings.trivia n (Position.start.advanceOver text.toList) l := by
  obtain ⟨hreads, hsettings, htally⟩ := h.reads
  have hzero : l.tally.comments + n = n := by
    rw [htally]
    exact Nat.zero_add n
  exact ⟨.start, text.toList, n, hreads, congrArg _ hsettings, hn, hzero, rfl⟩

theorem FreshOn.stage {text : String} (h : FreshOn settings text l)
    (hn : Commented settings.trivia text.toList n) :
    Stage settings.trivia n (Position.start.advanceOver text.toList) [] l :=
  .underway (h.underway hn) (by simp)

theorem Fresh.metered (h : Fresh settings l) (hm : settings.collectMetrics = true) :
    Metered [] [] l := by
  cases h with
  | @ofFeed feed l made =>
    rw [Lexer.ofFeed] at made
    generalize (Cursor.unprimed feed).prime = r at made
    obtain ⟨result, c⟩ := r
    cases result with
    | error fault => simp at made
    | ok u =>
      obtain rfl := Except.ok.inj made
      exact metered_ofCursor c hm
  | ofText text => exact metered_ofCursor _ hm

/-- However a lexer is used, after each call its tally is that of the tokens given so far, and of
the line where the last token scanned ends. Once the end token of a text was scanned, it tells the
lines of the text, and the comments. -/
theorem session_tally (hm : settings.collectMetrics = true) (hl : Fresh settings l)
    {calls : List Call} {past rest : List Entry} {e : Entry}
    (hs : l.session calls = past ++ e :: rest) :
    let given := (past ++ [e]).flatMap Entry.given
    let scanned := (past ++ [e]).flatMap Entry.scanned
    let m := e.after.tally
    m = .ofTokens given (lastLine scanned) m.comments ∧
      m.keywords + m.identifiers + m.numbers + m.strings + m.operators + m.delimiters +
        m.illegals = m.total ∧
      ∀ text, FreshOn settings text l → (∃ t ∈ scanned, t.value.isEof = true) →
        m.lines = 1 + text.toList.count '\n' ∧
          ∀ n, m.comments = n ↔ Commented settings.trivia text.toList n := by
  intro given scanned m
  have htally : m = .ofTokens given (lastLine scanned) m.comments :=
    ((hl.metered hm).session hs).tally
  refine ⟨htally, ?_, ?_⟩
  · have hproper : ∀ t ∈ given, t.isEof = false := by
      intro t ht
      obtain ⟨x, -, hx⟩ := List.mem_flatMap.mp ht
      exact not_isEof_of_mem_given t hx
    rw [htally]
    exact sum_ofTokens hproper _ _
  · rintro text htext ⟨eof, heof, hisEof⟩
    have hfinished (n : Nat) (hn : Commented settings.trivia text.toList n) :
        m.comments = n ∧ m.lines = 1 + text.toList.count '\n' := by
      cases (htext.stage hn).session hs with
      | underway goesOn noEof => simp [noEof eof heof] at hisEof
      | closed ended noEof => simp [noEof eof heof] at hisEof
      | @finished t ended last stops comments =>
        refine ⟨comments, ?_⟩
        have hlines : lastLine scanned = t.span.stop.line := by
          rw [lastLine, last]
          rfl
        rw [htally]
        exact hlines.trans ((congrArg Position.line stops).trans
          (Position.line_advanceOver .start text.toList))
    obtain ⟨ts, hts⟩ := exists_segmentation settings.trivia .start text.toList
    obtain ⟨n, hn⟩ := hts.exists_commented
    obtain ⟨hcomments, hlines⟩ := hfinished n hn
    refine ⟨hlines, fun k => ⟨?_, fun hk => (hfinished k hk).1⟩⟩
    rintro rfl
    rwa [hcomments]

/-- A line comment, and a block comment that nothing closes and that is a token. -/
theorem session_tally_unclosed :
    let l := ofText "\"é\" // 1\n/*" ⟨.strict, true, true⟩
    ∃ past e, l.session [.next, .pull, .next] = past ++ [e] ∧
      e.after.tally = .ofTokens [⟨.string, "é"⟩, .unclosedComment] 2 2 ∧
      Commented .strict "\"é\" // 1\n/*".toList 2 := by
  intro l
  let first := l.perform .next
  let second := first.after.perform .pull
  let third := second.after.perform .next
  have htally : third.after.tally = .ofTokens [⟨.string, "é"⟩, .unclosedComment] 2 2 := by
    decide +kernel
  have heof : ∃ t ∈ [first, second, third].flatMap Entry.scanned, t.value.isEof = true := by
    decide +kernel
  have hs : l.session [.next, .pull, .next] = [first, second] ++ third :: [] := rfl
  obtain ⟨-, -, htext⟩ := session_tally rfl (.ofText _) hs
  refine ⟨[first, second], third, hs, htally, ?_⟩
  exact ((htext _ .ofText heof).2 2).mp (congrArg Tally.comments htally)

end TokenDump.Lexer
