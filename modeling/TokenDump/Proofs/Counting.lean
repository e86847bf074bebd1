import TokenDump.Proofs.Stability
import TokenDump.Proofs.TerminalStates

/-! # What a lexer counts

However a lexer is used, its tally counts the tokens that its calls have given, each in the class of
its kind, and the last line that a scan has come to. -/
namespace TokenDump.Lexer

def Answer.token? : Answer → Option Token
  | .located (.ok t) => some t.value
  | .token (.ok t) => some t
  | .pulled (some (.ok t)) => some t
  | _ => none

/-- The token that the call has given, if it is not the end token. -/
def Entry.given (e : Entry) : List Token := e.answer.token?.toList.filter (!·.isEof)

/-- Whether the call asks for a token. -/
def asks (l : Lexer) : Call → Bool
  | .next | .nextToken => true
  | .pull => !l.isDrained
  | .close | .look => false

/-- The token that the call has scanned, be it the end token. Nothing is scanned after the end, in a
closed source and after an error. -/
def Entry.scanned (e : Entry) : List (Located Token) :=
  if e.before.asks e.call && e.before.failure.isNone && !e.before.isDone then
    e.before.next.result.toOption.toList
  else []

/-- What there is to count of the tokens that were given. -/
def Tally.ofTokens (given : List Token) (lines comments : Nat) : Tally where
  total := given.length
  keywords := given.countP (·.kind.family = .keyword)
  identifiers := given.countP (·.kind = .identifier)
  numbers := given.countP (·.kind = .number)
  strings := given.countP (·.kind = .string)
  operators := given.countP (·.kind.family = .operator)
  delimiters := given.countP (·.kind.family = .delimiter)
  illegals := given.countP (·.isIllegal)
  comments := comments
  longestString := ((given.filter (·.kind = .string)).map (·.text.length)).foldl max 0
  lines := lines

/-- The line where the last of the tokens ends; zero if there is none. -/
def lastLine (scanned : List (Located Token)) : Nat := scanned.getLast?.elim 0 (·.span.stop.line)

variable {l : Lexer} {call : Call} {t : Located Token} {given : List Token}
  {scanned : List (Located Token)} {lines comments : Nat}

theorem count_ofTokens {t : Token} (ht : t.isEof = false) :
    (Tally.ofTokens given lines comments).count t =
      Tally.ofTokens (given ++ [t]) lines comments := by
  obtain ⟨kind, text⟩ := t
  cases kind with
  | eof => simp [Token.isEof] at ht
  | _ => simp [Tally.count, Tally.ofTokens, Token.isIllegal, Kind.family]

theorem record_ofTokens (h : lines ≤ t.span.stop.line) :
    (Tally.ofTokens given lines comments).record t =
      Tally.ofTokens (given ++ [t.value].filter (!·.isEof)) t.span.stop.line comments := by
  have hlines : { Tally.ofTokens given lines comments with
      lines := max lines t.span.stop.line } =
        Tally.ofTokens given t.span.stop.line comments := by
    rw [Nat.max_eq_right h]
    rfl
  have hrecord : (Tally.ofTokens given lines comments).record t =
      if t.value.isEof then Tally.ofTokens given t.span.stop.line comments
      else (Tally.ofTokens given t.span.stop.line comments).count t.value := by
    rw [← hlines]
    rfl
  rw [hrecord]
  cases ht : t.value.isEof with
  | true => simp [ht]
  | false => simp [ht, count_ofTokens]

/-- Every token is in one class. -/
theorem sum_ofTokens (h : ∀ t ∈ given, t.isEof = false) (lines comments : Nat) :
    let m := Tally.ofTokens given lines comments
    m.keywords + m.identifiers + m.numbers + m.strings + m.operators + m.delimiters +
      m.illegals = m.total := by
  induction given with
  | nil => rfl
  | cons t given ih =>
    obtain ⟨ht, hgiven⟩ := List.forall_mem_cons.mp h
    have hrest := ih hgiven
    obtain ⟨kind, text⟩ := t
    cases kind with
    | eof => simp [Token.isEof] at ht
    | _ =>
      simp [Tally.ofTokens, Token.isIllegal, Kind.family] at hrest ⊢
      omega

theorem not_isEof_of_mem_given {e : Entry} : ∀ t ∈ e.given, t.isEof = false := by
  intro t ht
  simpa using (List.mem_filter.mp ht).2

theorem settings_next (l : Lexer) : l.next.lexer.settings = l.settings := by
  rcases l.next_cases with ⟨e, -, hn⟩ | ⟨-, -, hn⟩ | ⟨-, -, q, t, hn⟩ | ⟨-, -, q, e, hn⟩
  · rw [hn]
  · rw [hn]
  · rw [hn, record_lexer]
    rfl
  · rw [hn]
    rfl

theorem settings_perform (l : Lexer) (call : Call) :
    (l.perform call).after.settings = l.settings := by
  cases call with
  | next => exact l.settings_next
  | nextToken => exact l.settings_next
  | pull =>
    by_cases hq : l.isDrained = true
    · rw [perform_drained hq]
    · rw [Bool.not_eq_true] at hq
      cases hr : l.next.result with
      | error e =>
        simp only [perform, pull_of_error hq hr]
        exact l.settings_next
      | ok t =>
        simp only [perform, pull_of_ok hq hr]
        split <;> exact l.settings_next
  | close => rfl
  | look => rfl

theorem perform_of_asks (h : l.asks call = true) : Scanned l (l.perform call) ∧
    (l.perform call).given =
      (l.next.result.toOption.toList.map (·.value)).filter (!·.isEof) := by
  cases call with
  | next =>
    refine ⟨scanned_next l, ?_⟩
    cases hr : l.next.result <;> simp [Entry.given, perform, Answer.token?, hr, Except.toOption]
  | nextToken =>
    refine ⟨scanned_nextToken l, ?_⟩
    cases hr : l.next.result <;>
      simp [Entry.given, perform, Answer.token?, nextToken, Step.map, Except.map, hr,
        Except.toOption]
  | pull =>
    have hq : l.isDrained = false := by simpa [asks] using h
    refine ⟨scanned_pull hq, ?_⟩
    cases hr : l.next.result with
    | error e => simp [Entry.given, perform, pull_of_error hq hr, Answer.token?, Except.toOption]
    | ok t =>
      cases ht : t.value.isEof <;>
        simp [Entry.given, perform, pull_of_ok hq hr, Answer.token?, Except.toOption, ht]
  | close => simp [asks] at h
  | look => simp [asks] at h

theorem perform_of_not_asks (h : l.asks call = false) :
    (l.perform call).after.tally = l.tally ∧ (l.perform call).after.position = l.position ∧
      (l.perform call).given = [] := by
  cases call with
  | next => simp [asks] at h
  | nextToken => simp [asks] at h
  | pull =>
    have hq : l.isDrained = true := by simpa [asks] using h
    rw [perform_drained hq]
    exact ⟨rfl, rfl, rfl⟩
  | close => exact ⟨rfl, rfl, rfl⟩
  | look => exact ⟨rfl, rfl, rfl⟩

theorem scanned_of_not_asks (h : l.asks call = false) : (l.perform call).scanned = [] := by
  simp [Entry.scanned, h]

theorem scanned_of_stopped (h : l.failure ≠ none ∨ l.isDone = true) :
    (l.perform call).scanned = [] := by
  rw [Entry.scanned, perform_before]
  rcases h with h | h
  · rw [Option.isNone_eq_false_iff.mpr (Option.isSome_iff_ne_none.mpr h)]
    simp
  · simp [h]

theorem scanned_of_open (h : l.asks call = true) (hf : l.failure = none) (hd : l.isDone = false) :
    (l.perform call).scanned = l.next.result.toOption.toList := by
  simp [Entry.scanned, h, hf, hd]

/-- A scan gives a token, which stops where the scan has come to, or it fails. It never goes back to
an earlier line. -/
theorem next_scans (hf : l.failure = none) (hd : l.isDone = false) : ∃ q : Progress,
    l.position.line ≤ q.cursor.position.line ∧
      ((∃ t, l.next = ⟨.ok t, ((l.passed q).record t).1, ((l.passed q).record t).2⟩ ∧
          t.span.stop = q.cursor.position) ∨
        ∃ error, l.next = ⟨.error error, l.failed q error, [(l.passed q).failureNotice error]⟩) := by
  have hline := line_scanToken_le l.settings.trivia ⟨l.cursor, l.tally.comments⟩
  have hstop := @stop_scanToken l.settings.trivia ⟨l.cursor, l.tally.comments⟩
  rw [next_of_open hf hd]
  generalize scanToken l.settings.trivia ⟨l.cursor, l.tally.comments⟩ = r at hline hstop ⊢
  obtain ⟨result, q⟩ := r
  refine ⟨q, hline, ?_⟩
  cases result with
  | ok t => exact .inl ⟨t, rfl, hstop rfl⟩
  | error fault => exact .inr ⟨_, rfl⟩

/-- The tally is that of the tokens given so far, and of the last token scanned. -/
structure Metered (given : List Token) (scanned : List (Located Token)) (l : Lexer) : Prop where
  collects : l.settings.collectMetrics = true
  tally : l.tally = .ofTokens given (lastLine scanned) l.tally.comments
  reached : l.tally.lines ≤ l.position.line

theorem Metered.scan (h : Metered given scanned l) (hf : l.failure = none)
    (hd : l.isDone = false) :
    Metered (given ++ (l.next.result.toOption.toList.map (·.value)).filter (!·.isEof))
      (scanned ++ l.next.result.toOption.toList) l.next.lexer := by
  have hlines : lastLine scanned ≤ l.position.line := by
    have hreached := h.reached
    rwa [h.tally] at hreached
  obtain ⟨q, hline, hscan⟩ := next_scans hf hd
  have htally : (l.passed q).tally = .ofTokens given (lastLine scanned) q.comments :=
    congrArg (fun m : Tally => { m with comments := q.comments }) h.tally
  rcases hscan with ⟨t, hn, hstop⟩ | ⟨error, hn⟩
  · have hlast : lastLine (scanned ++ [t]) = t.span.stop.line := by simp [lastLine]
    have hle : lastLine scanned ≤ t.span.stop.line := by
      rw [hstop]
      exact Nat.le_trans hlines hline
    have hcollects : (l.passed q).settings.collectMetrics = true := h.collects
    rw [hn, record_lexer]
    simp only [Except.toOption, Option.toList_some, List.map_singleton, hcollects, if_true, htally]
    rw [record_ofTokens hle]
    refine ⟨h.collects, by rw [hlast]; rfl, ?_⟩
    exact Nat.le_of_eq (congrArg Position.line hstop)
  · rw [hn]
    simp only [Except.toOption, Option.toList_none, List.map_nil, List.filter_nil, List.append_nil]
    exact ⟨h.collects, htally, Nat.le_trans h.reached hline⟩

theorem Metered.same {m : Lexer} (h : Metered given scanned l) (hs : m.settings = l.settings)
    (ht : m.tally = l.tally) (hp : m.position = l.position) : Metered given scanned m :=
  ⟨hs ▸ h.collects, ht ▸ h.tally, by rw [ht, hp]; exact h.reached⟩

theorem next_of_stopped (h : l.failure ≠ none ∨ l.isDone = true) :
    l.next.lexer = l ∧ ∀ t, l.next.result = .ok t → t.value.isEof = true := by
  rcases l.next_cases with ⟨e, hf, hn⟩ | ⟨hf, hd, hn⟩ | ⟨hf, hd, -⟩ | ⟨hf, hd, -⟩
  · simp [hn]
  · rw [hn]
    refine ⟨rfl, fun t ht => ?_⟩
    obtain rfl := Except.ok.inj ht
    rfl
  · simp [hf, hd] at h
  · simp [hf, hd] at h

theorem Metered.perform (h : Metered given scanned l) (call : Call) :
    Metered (given ++ (l.perform call).given) (scanned ++ (l.perform call).scanned)
      (l.perform call).after := by
  cases ha : l.asks call with
  | false =>
    obtain ⟨htally, hposition, hgiven⟩ := perform_of_not_asks ha
    rw [scanned_of_not_asks ha, hgiven, List.append_nil, List.append_nil]
    exact h.same (l.settings_perform call) htally hposition
  | true =>
    obtain ⟨hs, hgiven⟩ := perform_of_asks ha
    have hposition : (l.perform call).after.position = l.next.lexer.position :=
      congrArg Cursor.position hs.cursor
    have hsettings := (l.settings_perform call).trans l.settings_next.symm
    by_cases ho : l.failure ≠ none ∨ l.isDone = true
    · obtain ⟨hlexer, heof⟩ := next_of_stopped ho
      have hnothing : (l.perform call).given = [] := by
        rw [hgiven]
        cases hr : l.next.result with
        | error e => rfl
        | ok t => simp [Except.toOption, heof t hr]
      rw [scanned_of_stopped ho, hnothing, List.append_nil, List.append_nil]
      rw [hlexer] at hsettings hposition
      exact h.same hsettings (hs.tally.trans (congrArg Lexer.tally hlexer)) hposition
    · obtain ⟨hf, hd⟩ : l.failure = none ∧ l.isDone = false := by simpa using ho
      rw [hgiven, scanned_of_open ha hf hd]
      exact (h.scan hf hd).same hsettings hs.tally hposition

/-- What every call preserves, with its entry added to those before, holds all through a session. -/
theorem session_trace {I : List Entry → Lexer → Prop}
    (hstep : ∀ past l call, I past l → I (past ++ [l.perform call]) (l.perform call).after)
    {past rest : List Entry} {calls : List Call} {e : Entry} (h : I [] l)
    (hs : l.session calls = past ++ e :: rest) : I (past ++ [e]) e.after := by
  have hfrom : ∀ past before l calls, I before l → session l calls = past ++ e :: rest →
      I (before ++ (past ++ [e])) e.after := by
    intro past
    induction past with
    | nil =>
      intro before l calls h hs
      cases calls with
      | nil => simp [session] at hs
      | cons call calls =>
        obtain ⟨rfl, -⟩ := List.cons.inj hs
        exact hstep before l call h
    | cons first past ih =>
      intro before l calls h hs
      cases calls with
      | nil => simp [session] at hs
      | cons call calls =>
        obtain ⟨rfl, htail⟩ := List.cons.inj hs
        simpa using ih _ _ _ (hstep before l call h) htail
  exact hfrom past [] l calls h hs

theorem metered_ofCursor (cursor : Cursor) {settings : Settings.Scanning}
    (h : settings.collectMetrics = true) : Metered [] [] (ofCursor cursor settings) :=
  ⟨h, rfl, Nat.zero_le _⟩

theorem Metered.session {past rest : List Entry} {calls : List Call} {e : Entry}
    (h : Metered [] [] l) (hs : l.session calls = past ++ e :: rest) :
    Metered ((past ++ [e]).flatMap Entry.given) ((past ++ [e]).flatMap Entry.scanned) e.after := by
  have hstep (past : List Entry) (l : Lexer) (call : Call)
      (h : Metered (past.flatMap Entry.given) (past.flatMap Entry.scanned) l) :
      Metered ((past ++ [l.perform call]).flatMap Entry.given)
        ((past ++ [l.perform call]).flatMap Entry.scanned) (l.perform call).after := by
    simpa using h.perform call
  exact session_trace (I := fun past => Metered (past.flatMap Entry.given)
    (past.flatMap Entry.scanned)) hstep h hs

end TokenDump.Lexer
