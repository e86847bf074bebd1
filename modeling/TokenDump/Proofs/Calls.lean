import TokenDump.Proofs.PassingLexemes
import TokenDump.Lexer.Basic

/-! # Calls over shown text

A call of a lexer over text that its cursor shows gives the next token of the text, or the fault
that stands behind the text. -/
namespace TokenDump.Lexer

open Scan Cursor

/-- The lexer goes on at `p`, where its cursor shows `text`. -/
structure Reads (l : Lexer) (stop : Option Fault) (p : Position) (text : List Char) : Prop where
  failure : l.failure = none
  isDone : l.isDone = false
  shown : l.cursor.Shows stop text
  position : l.position = p

/-- The lexer once its scan has come to `q`. -/
def passed (l : Lexer) (q : Progress) : Lexer :=
  { l with cursor := q.cursor, tally := { l.tally with comments := q.comments } }

def failed (l : Lexer) (q : Progress) (error : ReadError) : Lexer :=
  { l.passed q with cursor := q.cursor.close, failure := some error }

variable {l : Lexer} {stop : Option Fault} {fault : Fault} {p : Position}
  {text taken rest : List Char} {t : Located Token} {n : Nat}

/-- The tokens but for the end token. -/
def proper (ts : List (Located Token)) : List (Located Token) := ts.filter (!·.value.isEof)

theorem record_lexer (l : Lexer) (t : Located Token) : (l.record t).1 =
    { l with
      tally := if l.settings.collectMetrics then l.tally.record t else l.tally
      isDone := l.isDone || t.value.isEof } := by
  unfold record
  cases hm : l.settings.collectMetrics <;> cases he : t.value.isEof <;>
    simp only [Bool.false_eq_true, if_false, if_true, Bool.or_false, Bool.or_true] <;>
    split <;> simp

theorem next_of_failed {error : ReadError} (h : l.failure = some error) :
    l.next = ⟨.error error, l, []⟩ := by
  rw [Lexer.next, h]

theorem next_of_done (hf : l.failure = none) (hd : l.isDone = true) :
    l.next = ⟨.ok l.eofHere, l, []⟩ := by
  rw [Lexer.next, hf, hd]
  rfl

theorem next_of_open (hf : l.failure = none) (hd : l.isDone = false) :
    l.next = match scanToken l.settings.trivia ⟨l.cursor, l.tally.comments⟩ with
      | (.ok t, q) => ⟨.ok t, ((l.passed q).record t).1, ((l.passed q).record t).2⟩
      | (.error fault, q) => ⟨.error ⟨q.cursor.readPosition, fault⟩,
          l.failed q ⟨q.cursor.readPosition, fault⟩,
          [(l.passed q).failureNotice ⟨q.cursor.readPosition, fault⟩]⟩ := by
  obtain ⟨cursor, settings, tally, origin, failure, isDone, isDrained⟩ := l
  obtain rfl : failure = none := hf
  obtain rfl : isDone = false := hd
  rw [Lexer.next]
  simp only [Bool.false_eq_true, if_false]
  cases scanToken settings.trivia ⟨cursor, tally.comments⟩ with | mk result q =>
  cases result <;> rfl

theorem next_cases (l : Lexer) :
    (∃ error, l.failure = some error ∧ l.next = ⟨.error error, l, []⟩) ∨
    (l.failure = none ∧ l.isDone = true ∧ l.next = ⟨.ok l.eofHere, l, []⟩) ∨
    (l.failure = none ∧ l.isDone = false ∧
      ∃ q t, l.next = ⟨.ok t, ((l.passed q).record t).1, ((l.passed q).record t).2⟩) ∨
    (l.failure = none ∧ l.isDone = false ∧
      ∃ q error, l.next = ⟨.error error, l.failed q error, [(l.passed q).failureNotice error]⟩) := by
  cases hf : l.failure with
  | some error => exact .inl ⟨error, rfl, next_of_failed hf⟩
  | none =>
    by_cases hd : l.isDone = true
    · exact .inr (.inl ⟨rfl, hd, next_of_done hf hd⟩)
    · rw [Bool.not_eq_true] at hd
      have hnext := next_of_open hf hd
      generalize scanToken l.settings.trivia ⟨l.cursor, l.tally.comments⟩ = r at hnext
      obtain ⟨result, q⟩ := r
      cases result with
      | ok t => exact .inr (.inr (.inl ⟨rfl, hd, q, t, hnext⟩))
      | error fault => exact .inr (.inr (.inr ⟨rfl, hd, q, _, hnext⟩))

/-- The call gives the token, unless a fault stands close behind it. -/
theorem Reads.next_ok (h : l.Reads stop p (taken ++ rest))
    (hp : (scanToken l.settings.trivia).Passes t p taken rest n)
    (hr : stop ≠ none → 2 ≤ rest.length) :
    ∃ q : Progress, q.cursor.Shows stop rest ∧ q.cursor.position = p.advanceOver taken ∧
      q.comments = l.tally.comments + n ∧
      l.next = ⟨.ok t, ((l.passed q).record t).1, ((l.passed q).record t).2⟩ := by
  obtain ⟨hmoved, hcount⟩ := hp stop ⟨l.cursor, l.tally.comments⟩ h.shown h.position
  rw [next_of_open h.failure h.isDone]
  generalize scanToken l.settings.trivia ⟨l.cursor, l.tally.comments⟩ = r at hmoved hcount ⊢
  obtain ⟨result, q⟩ := r
  cases hmoved with
  | done hs hpos => exact ⟨q, hs, hpos, hcount rfl, rfl⟩
  | stopped before hf hlt hsplit hpos hc hl =>
    have := hr (by simp [hf])
    omega

theorem take_of_split {before : List Char} {a b : Char} (h : text = before ++ [a, b]) :
    text.take (text.length - 2) = before := by
  simp [h]

/-- The fault is met by the token that comes closer to it than two characters. -/
theorem Reads.next_error (h : l.Reads (some fault) p (taken ++ rest))
    (hp : (scanToken l.settings.trivia).Passes t p taken rest n) (hr : rest.length < 2) :
    l.next.result = .error ⟨p.advanceOver (taken ++ rest), fault⟩ ∧
      l.next.lexer.position =
        p.advanceOver ((taken ++ rest).take ((taken ++ rest).length - 2)) := by
  obtain ⟨hmoved, hcount⟩ := hp (some fault) ⟨l.cursor, l.tally.comments⟩ h.shown h.position
  rw [next_of_open h.failure h.isDone]
  generalize scanToken l.settings.trivia ⟨l.cursor, l.tally.comments⟩ = r at hmoved hcount ⊢
  obtain ⟨result, q⟩ := r
  cases hmoved with
  | done hs hpos =>
    have := hs.two_le (by simp)
    omega
  | stopped before hf hlt hsplit hpos hc hl =>
    obtain rfl := Option.some.inj hf
    simp only at hpos hc hl
    have hread : q.cursor.readPosition = p.advanceOver (taken ++ rest) := by
      simp [readPosition, hpos, hc, hl, hsplit, Position.advanceOver_append]
    rw [take_of_split hsplit]
    exact ⟨by simp [hread], hpos⟩

theorem Reads.next (h : l.Reads stop p (taken ++ rest))
    (hp : (scanToken l.settings.trivia).Passes t p taken rest n) (ht : t.value.isEof = false)
    (hr : stop ≠ none → 2 ≤ rest.length) :
    l.next.result = .ok t ∧ l.next.lexer.Reads stop (p.advanceOver taken) rest ∧
      l.next.lexer.settings = l.settings := by
  obtain ⟨q, hs, hpos, -, hnext⟩ := h.next_ok hp hr
  rw [hnext, record_lexer]
  exact ⟨rfl, ⟨h.failure, by simp [passed, h.isDone, ht], hs, hpos⟩, rfl⟩

theorem proper_cons {ts : List (Located Token)} (ht : t.value.isEof = false) :
    proper (t :: ts) = t :: proper ts := List.filter_cons_of_pos (by simp [ht])

theorem proper_eof (ht : t.value.isEof = true) : proper [t] = [] := by simp [proper, ht]

theorem drain_of_ok (h : l.next.result = .ok t) (ht : t.value.isEof = false) :
    l.drain = (t :: l.next.lexer.drain.1, l.next.lexer.drain.2.1, l.next.lexer.drain.2.2.1,
      l.next.notices ++ l.next.lexer.drain.2.2.2) := by
  rw [drain]
  split
  · rename_i error he
    simp [h] at he
  · rename_i u hu
    obtain rfl : t = u := by simpa [h] using hu
    simp [ht]

theorem drain_of_eof (h : l.next.result = .ok t) (ht : t.value.isEof = true) :
    l.drain = ([t], none, l.next.lexer, l.next.notices) := by
  rw [drain]
  split
  · rename_i error he
    simp [h] at he
  · rename_i u hu
    obtain rfl : t = u := by simpa [h] using hu
    simp [ht]

theorem drain_of_error {error : ReadError} (h : l.next.result = .error error) :
    l.drain = ([], some error, l.next.lexer, l.next.notices) := by
  rw [drain]
  split
  · rename_i e he
    obtain rfl : error = e := by simpa [h] using he
    rfl
  · rename_i u hu
    simp [h] at hu

def withOrigin (l : Lexer) (origin : Option String) : Lexer := { l with origin }

theorem next_withOrigin (l : Lexer) (origin : Option String) :
    (l.withOrigin origin).next.result = l.next.result ∧
      (l.withOrigin origin).next.lexer = l.next.lexer.withOrigin origin := by
  cases hf : l.failure with
  | some error =>
    have hf' : (l.withOrigin origin).failure = some error := hf
    rw [next_of_failed hf, next_of_failed hf']
    exact ⟨rfl, rfl⟩
  | none =>
    have hf' : (l.withOrigin origin).failure = none := hf
    cases hd : l.isDone with
    | true =>
      have hd' : (l.withOrigin origin).isDone = true := hd
      rw [next_of_done hf hd, next_of_done hf' hd']
      exact ⟨rfl, rfl⟩
    | false =>
      have hd' : (l.withOrigin origin).isDone = false := hd
      have hscan : scanToken (l.withOrigin origin).settings.trivia
          ⟨(l.withOrigin origin).cursor, (l.withOrigin origin).tally.comments⟩ =
            scanToken l.settings.trivia ⟨l.cursor, l.tally.comments⟩ := rfl
      rw [next_of_open hf hd, next_of_open hf' hd', hscan]
      generalize scanToken l.settings.trivia ⟨l.cursor, l.tally.comments⟩ = r
      obtain ⟨result, q⟩ := r
      cases result with
      | error fault => exact ⟨rfl, rfl⟩
      | ok t =>
        refine ⟨rfl, ?_⟩
        simp only [record_lexer]
        rfl

/-- The name of the source is for reports only. -/
theorem drain_withOrigin (l : Lexer) (origin : Option String) :
    (l.withOrigin origin).drain.1 = l.drain.1 ∧
      (l.withOrigin origin).drain.2.1 = l.drain.2.1 := by
  obtain ⟨hresult, hlexer⟩ := l.next_withOrigin origin
  induction l using Lexer.drain.induct with
  | case1 l error h =>
    rw [drain_of_error h, drain_of_error (hresult.trans h)]
    exact ⟨rfl, rfl⟩
  | case2 l t h ht =>
    rw [drain_of_eof h ht, drain_of_eof (hresult.trans h) ht]
    exact ⟨rfl, rfl⟩
  | case3 l t h ht _ _ _ _ _ ih =>
    rw [Bool.not_eq_true] at ht
    obtain ⟨hnext, hnext'⟩ := l.next.lexer.next_withOrigin origin
    obtain ⟨htokens, hfailure⟩ := ih hnext hnext'
    rw [drain_of_ok h ht, drain_of_ok (hresult.trans h) ht, hlexer]
    exact ⟨congrArg (t :: ·) htokens, hfailure⟩

end TokenDump.Lexer
