import TokenDump.Proofs.Reporting
import TokenDump.Proofs.TriviaModes

/-! # The events of a scan

Whoever asks a lexer for the tokens of a text, and goes on asking after the end, finds in the journal
one warning for each illegal token and one report that the source is complete. The code of a warning
tells a string that nothing closes and a comment that nothing closes from all other illegal tokens. -/
namespace TokenDump.Lexer

open Log

/-- The token reaches from a quote that no other quote follows to the end of the text. -/
def OpenString (text : List Char) (t : Located Token) : Prop :=
  ∃ left body, text = left ++ '"' :: body ∧ '"' ∉ body ∧
    t.span = ⟨Position.start.advanceOver left, Position.start.advanceOver text⟩

/-- The token reaches from the opening mark of a comment that nothing closes to the end of the
text. -/
def OpenComment (text : List Char) (t : Located Token) : Prop :=
  ∃ left comment, text = left ++ comment ∧ UnclosedComment comment ∧
    t.span = ⟨Position.start.advanceOver left, Position.start.advanceOver text⟩

/-- The event is a warning about this illegal token of the text. -/
structure Warns (text : List Char) (t : Located Token) (e : Event) : Prop where
  level : e.level = .warning
  span : e.span = some t.span
  shown : e.details.lookup "text" = some (Text.escape t.value.text)
  unclosedString : e.code = .unclosedString ↔ OpenString text t
  unclosedComment : e.code = .unclosedComment ↔ OpenComment text t
  illegalCharacter : e.code = .illegalCharacter ↔ ¬ OpenString text t ∧ ¬ OpenComment text t

/-- The event reports that the text is complete, with these tokens and this end token. -/
structure Completes (trivia : Trivia) (text : List Char) (tokens : List (Located Token))
    (eof : Located Token) (e : Event) : Prop where
  level : e.level = .info
  code : e.code = .scanComplete
  total : e.details.lookup "tokens" = some (toString tokens.length)
  illegals : e.details.lookup "illegal" = some (toString (tokens.countP (·.value.isIllegal)))
  comments : ∃ n, (∀ m, Commented trivia text m ↔ m = n) ∧
    e.details.lookup "comments" = some (toString n)
  lines : e.details.lookup "lines" = some (toString eof.span.stop.line)

/-- What the journal accepts of the notices of a call. -/
def Entry.events (j : Journal) (e : Entry) : List Event := e.notices.filterMap j.stamp?

/-- The journal after the notices of all calls were posted. -/
def logged (j : Journal) (entries : List Entry) : Journal :=
  entries.foldl (fun j e => j.postAll e.notices) j

/-- The calls before the end give the tokens and log the warnings, the first call at the end reports
that the source is complete, and all later ones give the end token again and log nothing. -/
structure Narrated (settings : Settings.Scanning) (text : List Char) (j : Journal)
    (tokens : List (Located Token)) (eof : Located Token) (before : List Entry) (first : Entry)
    (after : List Entry) : Prop where
  given : before.map (·.answer) = tokens.map fun t => .located (.ok t)
  ended : ∀ e ∈ first :: after, e.answer = .located (.ok eof)
  warnings : List.Forall₂ (Warns text)
    (if settings.logIllegal then tokens.filter (·.value.isIllegal) else [])
    (before.flatMap (Entry.events j))
  completion : ∃ e, first.events j = [e] ∧ Completes settings.trivia text tokens eof e
  silence : ∀ e ∈ after, e.events j = []
  /-- The journal has accepted these events, in this order, and no others. -/
  accepted : (logged j (before ++ first :: after)).accepted =
    j.accepted ++ before.flatMap (Entry.events j) ++ first.events j

variable {settings : Settings.Scanning} {trivia : Trivia} {l last : Lexer} {t eof : Located Token}
  {ts : List (Located Token)} {p : Position} {text lexeme rest : List Char} {u : Token} {j : Journal}
  {entries : List Entry}

theorem Lexeme.illegal_cases (h : Lexeme trivia lexeme rest u) (hu : u.isIllegal = true) :
    (u = .unclosedString ∧ rest = [] ∧ ∃ body, lexeme = '"' :: body ∧ '"' ∉ body) ∨
      (u = .unclosedComment ∧ rest = [] ∧ UnclosedComment lexeme) ∨
      ∃ c : Char, u = .illegal c.toString ∧ lexeme = [c] ∧ c ≠ '"' := by
  cases h with
  | unclosedString never => exact .inl ⟨rfl, rfl, _, rfl, never⟩
  | unclosedComment strict unclosed => exact .inr (.inl ⟨rfl, rfl, unclosed⟩)
  | illegal noBlank noWord noDigit noQuote noOperator noDelimiter noComment =>
    exact .inr (.inr ⟨_, rfl, rfl, noQuote⟩)
  | keyword | identifier | number | string | operator | delimiter => simp [Token.isIllegal] at hu

/-- Every token before the end is made by the lexeme that it covers. -/
theorem Segmentation.exists_lexeme (h : Segmentation trivia p text ts) (ht : t ∈ ts)
    (hproper : t.value.isEof = false) :
    ∃ left lexeme rest, text = left ++ lexeme ++ rest ∧ Lexeme trivia lexeme rest t.value ∧
      t.span = ⟨p.advanceOver left, p.advanceOver (left ++ lexeme)⟩ := by
  induction h with
  | eof skipped =>
    obtain rfl := List.mem_singleton.mp ht
    simp [Token.isEof, Token.eof] at hproper
  | @token p gap lexeme rest n u ts skipped read more ih =>
    rcases List.mem_cons.mp ht with rfl | ht
    · exact ⟨gap, lexeme, rest, rfl, read, rfl⟩
    · obtain ⟨left, lexeme', rest', rfl, hread, hspan⟩ := ih ht
      refine ⟨gap ++ lexeme ++ left, lexeme', rest', by simp, hread, ?_⟩
      simp only [hspan, Position.advanceOver_append]

theorem illegalCode_char {c : Char} (hc : c ≠ '"') :
    illegalCode (Token.illegal c.toString).text = .illegalCharacter := by
  have hlist : (Token.illegal c.toString).text.toList = [c] := by simp [Token.illegal]
  have hstring : (Token.illegal c.toString).text ≠ Token.unclosedString.text := by
    intro h
    have hquote : Token.unclosedString.text.toList = ['"'] := by decide
    rw [h, hquote] at hlist
    exact hc (List.cons.inj hlist).1.symm
  have hcomment : (Token.illegal c.toString).text ≠ Token.unclosedComment.text := by
    intro h
    have hmark : Token.unclosedComment.text.toList = ['/', '*'] := by decide
    rw [h, hmark] at hlist
    simp at hlist
  rw [illegalCode, if_neg hstring, if_neg hcomment]

/-- The code of an illegal token is chosen by its text alone, and yet it says what stands there. -/
theorem Segmentation.illegalCode (h : Segmentation trivia .start text ts) (ht : t ∈ ts)
    (hi : t.value.isIllegal = true) :
    (illegalCode t.value.text = .unclosedString ∧ OpenString text t ∧ ¬ OpenComment text t) ∨
      (illegalCode t.value.text = .unclosedComment ∧ ¬ OpenString text t ∧ OpenComment text t) ∨
      (illegalCode t.value.text = .illegalCharacter ∧ ¬ OpenString text t ∧
        ¬ OpenComment text t) := by
  have hproper : t.value.isEof = false := by
    have hkind : t.value.kind = .illegal := by simpa [Token.isIllegal] using hi
    simp [Token.isEof, hkind]
  obtain ⟨left, lexeme, rest, rfl, hread, hspan⟩ := h.exists_lexeme ht hproper
  have hcover {left' covered : List Char} (htext : left ++ lexeme ++ rest = left' ++ covered)
      (hspan' : t.span = ⟨Position.start.advanceOver left',
        Position.start.advanceOver (left ++ lexeme ++ rest)⟩) : lexeme = covered := by
    rw [hspan] at hspan'
    obtain ⟨hstart, hstop⟩ := Span.mk.inj hspan'
    rw [htext] at hstop
    have hparts : left ++ lexeme ++ rest = left' ++ covered ++ [] := by rw [htext, List.append_nil]
    exact (Position.stretch_inj hparts hstart hstop).2.1
  have hstring (hopen : OpenString (left ++ lexeme ++ rest) t) :
      ∃ body, lexeme = '"' :: body := by
    obtain ⟨left', body, htext, -, hspan'⟩ := hopen
    exact ⟨body, hcover htext hspan'⟩
  have hcomment (hopen : OpenComment (left ++ lexeme ++ rest) t) :
      ∃ body, lexeme = '/' :: '*' :: body := by
    obtain ⟨left', comment, htext, ⟨-⟩, hspan'⟩ := hopen
    exact ⟨_, hcover htext hspan'⟩
  rcases hread.illegal_cases hi with ⟨hu, rfl, body, rfl, hnever⟩ | ⟨hu, rfl, hunclosed⟩ |
    ⟨c, hu, rfl, hquote⟩
  · refine .inl ⟨by rw [hu]; decide, ⟨left, body, by simp, hnever, ?_⟩, fun hopen => ?_⟩
    · rw [hspan, List.append_nil]
    · obtain ⟨_, hbody⟩ := hcomment hopen
      simp at hbody
  · refine .inr (.inl ⟨by rw [hu]; decide, fun hopen => ?_, left, lexeme, by simp, hunclosed, ?_⟩)
    · obtain ⟨_, hbody⟩ := hstring hopen
      obtain ⟨-⟩ := hunclosed
      simp at hbody
    · rw [hspan, List.append_nil]
  · refine .inr (.inr ⟨by rw [hu]; exact illegalCode_char hquote, fun hopen => ?_, fun hopen => ?_⟩)
    · obtain ⟨_, hbody⟩ := hstring hopen
      exact hquote (List.cons.inj hbody).1
    · obtain ⟨_, hbody⟩ := hcomment hopen
      simp at hbody

theorem warns_illegalNotice (h : Segmentation trivia .start text ts) (ht : t ∈ ts)
    (hi : t.value.isIllegal = true) :
    Warns text t ⟨j.placed (illegalNotice t), j.now⟩ := by
  have hcode : (j.placed (illegalNotice t)).code = Lexer.illegalCode t.value.text :=
    j.code_placed _
  have hshown : (j.placed (illegalNotice t)).details.lookup "text" =
      some (Text.escape t.value.text) := by
    rw [j.lookup_placed _ (by decide)]
    simp [illegalNotice, Notice.saying, Details.insertAll, Details.lookup_insert]
  refine ⟨j.level_placed _, j.span_placed _, hshown, ?_, ?_, ?_⟩ <;> simp only [hcode] <;>
    rcases h.illegalCode ht hi with ⟨hc, hs, ho⟩ | ⟨hc, hs, ho⟩ | ⟨hc, hs, ho⟩ <;>
    simp [hc, hs, ho] <;> decide

theorem accepted_logged (j : Journal) (entries : List Entry) :
    (logged j entries).accepted = j.accepted ++ entries.flatMap (Entry.events j) := by
  induction entries generalizing j with
  | nil => simp [logged]
  | cons e entries ih =>
    have hrest : (logged (j.postAll e.notices) entries).accepted =
        j.accepted ++ e.events j ++ entries.flatMap (Entry.events j) := ih _
    rw [List.flatMap_cons, ← List.append_assoc]
    exact hrest

theorem session_of_ended (h : Ended l) (n : Nat) :
    l.session (.replicate n .next) =
      .replicate n ⟨.next, l, .located (.ok l.eofHere), l, []⟩ := by
  have hentry : l.perform .next = ⟨.next, l, .located (.ok l.eofHere), l, []⟩ := by
    rw [perform, next_of_done h.failure h.isDone]
  induction n with
  | zero => rfl
  | succ n ih =>
    rw [List.replicate_succ, session, hentry, ih, List.replicate_succ]

/-- A lexer that is asked for tokens until its end and `later` times after it. -/
theorem Finishes.session (h : Finishes l ts eof last) (later : Nat) :
    ∃ before first, l.session (.replicate (ts.length + 1 + later) .next) =
        before ++ first :: .replicate later ⟨.next, last, .located (.ok last.eofHere), last, []⟩ ∧
      before.map (·.answer) = ts.map (fun t => .located (.ok t)) ∧
      before.flatMap (·.notices) = warnings l.settings ts ∧
      first.answer = .located (.ok eof) ∧
      first.notices = [last.completionNotice eof.span.stop.line] := by
  induction h with
  | @eof l t underway given isEof =>
    have hended : Ended l.next.lexer := (Finishes.eof underway given isEof).ended
    refine ⟨[], l.perform .next, ?_, rfl, by simp [warnings], congrArg Answer.located given, ?_⟩
    · rw [List.length_nil, Nat.zero_add, Nat.add_comm, List.replicate_succ, Lexer.session,
        ← session_of_ended hended later]
      rfl
    · exact notices_of_eof underway given isEof
  | @token l last t eof ts given proper more ih =>
    obtain ⟨before, first, hsession, hanswers, hwarnings, hends, hcompletion⟩ := ih
    refine ⟨l.perform .next :: before, first, ?_, ?_, ?_, hends, hcompletion⟩
    · have hlength : (t :: ts).length + 1 + later = ts.length + 1 + later + 1 := by
        rw [List.length_cons]
        omega
      rw [hlength, List.replicate_succ, Lexer.session, List.cons_append, ← hsession]
      rfl
    · have hanswer : (l.perform .next).answer = .located (.ok t) := congrArg Answer.located given
      rw [List.map_cons, List.map_cons, hanswers, hanswer]
    · have hnotices : (l.perform .next).notices = warnings l.settings [t] :=
        notices_of_proper given proper
      rw [settings_next] at hwarnings
      rw [List.flatMap_cons, hnotices, hwarnings, ← warnings_cons]

theorem flatMap_events (j : Journal) (entries : List Entry) :
    entries.flatMap (Entry.events j) = (entries.flatMap (·.notices)).filterMap j.stamp? := by
  induction entries with
  | nil => rfl
  | cons e entries ih =>
    rw [List.flatMap_cons, List.flatMap_cons, List.filterMap_append, ih]
    rfl

theorem warns_warnings (hj : j.threshold = some .debug)
    (h : Segmentation trivia .start text (ts ++ [eof])) (settings : Settings.Scanning) :
    List.Forall₂ (Warns text)
      (if settings.logIllegal then ts.filter (·.value.isIllegal) else [])
      ((warnings settings ts).filterMap j.stamp?) := by
  have hall : ∀ us : List (Located Token), (∀ t ∈ us, t ∈ ts ∧ t.value.isIllegal = true) →
      List.Forall₂ (Warns text) us ((us.map illegalNotice).filterMap j.stamp?) := by
    intro us
    induction us with
    | nil => exact fun _ => .nil
    | cons t us ih =>
      intro hus
      obtain ⟨⟨ht, hi⟩, hrest⟩ := List.forall_mem_cons.mp hus
      have haccepts : j.accepts (illegalNotice t).level = true := by simp [Journal.accepts, hj]; rfl
      rw [List.map_cons, List.filterMap_cons, Journal.stamp?_of_accepts haccepts]
      exact .cons (warns_illegalNotice h (List.mem_append_left _ ht) hi) (ih hrest)
  rw [warnings]
  cases settings.logIllegal with
  | false => exact .nil
  | true => exact hall _ fun t ht => List.mem_filter.mp ht

/-- The report at the end says what the text holds. -/
theorem FreshOn.completes {text : String} (hl : FreshOn settings text l)
    (hm : settings.collectMetrics = true) (h : Finishes l ts eof last) (j : Journal) :
    Completes settings.trivia text.toList ts eof
      ⟨j.placed (last.completionNotice eof.span.stop.line), j.now⟩ := by
  have htally := h.tally (hl.fresh.metered hm)
  obtain ⟨htokens, hillegal, hcomments, hlines⟩ :=
    last.lookup_completionNotice eof.span.stop.line
  have hplaced {key value : String} (hkey : key ≠ fileKey)
      (h : (last.completionNotice eof.span.stop.line).details.lookup key = some value) :
      (j.placed (last.completionNotice eof.span.stop.line)).details.lookup key = some value :=
    (j.lookup_placed _ hkey).trans h
  have hentered (m : Nat) (hn : Commented settings.trivia text.toList m) :
      last.tally.comments = m := h.comments (hl.underway hn)
  obtain ⟨us, hus⟩ := exists_segmentation settings.trivia .start text.toList
  obtain ⟨n, hn⟩ := hus.exists_commented
  refine ⟨j.level_placed _, j.code_placed _, hplaced (by decide) ?_, hplaced (by decide) ?_,
    ⟨n, fun m => ⟨fun hm => ?_, ?_⟩, hplaced (by decide) ?_⟩, hplaced (by decide) hlines⟩
  · rw [htokens, htally]
    simp [Tally.ofTokens]
  · rw [hillegal, htally]
    simp [Tally.ofTokens, List.countP_map, Function.comp_def]
  · rw [← hentered m hm, hentered n hn]
  · rintro rfl
    exact hn
  · rw [hcomments, hentered n hn]

/-- The events of a scan: warnings of illegal tokens if they are to be logged, and then one report at
the end, however often a token is asked for after it. -/
theorem session_events (hm : settings.collectMetrics = true) {text : String}
    (hl : FreshOn settings text l) (j : Journal) (hj : j.threshold = some .debug) :
    ∃ tokens eof, Segmentation settings.trivia .start text.toList (tokens ++ [eof]) ∧
      eof.value.isEof = true ∧ (∀ t ∈ tokens, t.value.isEof = false) ∧
      ∀ later, ∃ before first after,
        l.session (.replicate (tokens.length + 1 + later) .next) = before ++ first :: after ∧
        Narrated settings text.toList j tokens eof before first after := by
  obtain ⟨tokens, eof, last, hsegmentation, hfinishes, hhere⟩ := hl.finishes
  have hsettings : l.settings = settings := hl.reads.2.1
  refine ⟨tokens, eof, hsegmentation, hfinishes.isEof, hfinishes.proper, fun later => ?_⟩
  obtain ⟨before, first, hsession, hanswers, hwarnings, hends, hcompletion⟩ :=
    hfinishes.session later
  refine ⟨before, first, _, hsession, hanswers, ?_, ?_, ⟨_, ?_, hl.completes hm hfinishes j⟩, ?_, ?_⟩
  · intro e he
    rcases List.mem_cons.mp he with rfl | he
    · exact hends
    · rw [List.eq_of_mem_replicate he, hhere]
  · rw [flatMap_events, hwarnings, hsettings]
    exact warns_warnings hj hsegmentation settings
  · have haccepts : j.accepts (last.completionNotice eof.span.stop.line).level = true := by
      simp [Journal.accepts, hj]
      rfl
    simp [Entry.events, hcompletion, Journal.stamp?_of_accepts haccepts]
  · intro e he
    rw [List.eq_of_mem_replicate he]
    rfl
  · have hnothing (e : Entry) (h : e.notices = []) (n : Nat) :
        (List.replicate n e).flatMap (Entry.events j) = [] := by
      simp [List.flatMap_eq_nil_iff, Entry.events, h]
    rw [accepted_logged, List.flatMap_append, List.flatMap_cons, hnothing _ rfl, List.append_nil,
      List.append_assoc]

/-- A slash alone, a quote that nothing closes, and two calls after the end. -/
theorem session_events_slash :
    let settings : Settings.Scanning := ⟨.strict, true, true⟩
    let l := ofText "/ // 1\n\"é" settings
    let j : Journal := ⟨some .debug, some "a", .epoch, []⟩
    ((l.session (.replicate 5 .next)).flatMap (Entry.events j)).map (·.code) =
        [.illegalCharacter, .unclosedString, .scanComplete] ∧
      ∃ tokens eof before first after,
        l.session (.replicate (tokens.length + 1 + 2) .next) = before ++ first :: after ∧
        Narrated settings "/ // 1\n\"é".toList j tokens eof before first after := by
  intro settings l j
  obtain ⟨tokens, eof, -, -, -, hnarrated⟩ :=
    session_events rfl (.ofText : FreshOn settings "/ // 1\n\"é" l) j rfl
  exact ⟨by decide +kernel, tokens, eof, hnarrated 2⟩

end TokenDump.Lexer
