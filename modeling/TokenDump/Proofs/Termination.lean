import TokenDump.Proofs.Buffering
import TokenDump.Proofs.Counting
import TokenDump.Proofs.Dumping
import TokenDump.Proofs.Trails

/-! # Progress and termination

Every call of a lexer ends, and a token that it gives covers at least one character of the source,
behind the characters passed before. So however a lexer is used it gives no more tokens than it has
decoded characters, and everything that asks it for tokens until the end comes to an end. -/
namespace TokenDump

open Cursor

theorem Feed.length_readings_le (feed : Feed) : feed.readings.length ≤ feed.size := by
  induction feed using Feed.readings.induct with
  | case1 => simp [Feed.readings_nil]
  | case2 feed hne ih =>
    have hlt := Feed.size_read_lt hne
    rw [Feed.readings_of_ne_nil hne, List.length_cons]
    omega

theorem Reading.chars_append (rs rs' : List Reading) :
    Reading.chars (rs ++ rs') = Reading.chars rs ++ Reading.chars rs' := List.filterMap_append

namespace Lexer

/-- The span of a token starts where the lexer was or later, and ends where the lexer is now. It is
empty only for the end token. -/
structure Spans (l : Lexer) (t : Located Token) : Prop where
  starts : l.position.offset ≤ t.span.start.offset
  ordered : t.span.start.offset ≤ t.span.stop.offset
  grows : t.value.isEof = false → t.span.start.offset < t.span.stop.offset
  stops : t.span.stop = l.next.lexer.position

variable {l : Lexer} {t : Located Token} {c d : Cursor} {calls : List Call} {past rest : List Entry}
  {e : Entry}

theorem finds_next (h : l.next.result = .ok t) : Finds l.cursor l.next.lexer.cursor t := by
  cases hf : l.failure with
  | some error => simp [next_of_failed hf] at h
  | none =>
    by_cases hd : l.isDone = true
    · rw [next_of_done hf hd] at h ⊢
      obtain rfl := Except.ok.inj h
      exact ⟨l.cursor, [], [], trail_refl _, trail_refl _, rfl, by
        simp [eofHere, Token.isEof, Token.eof]⟩
    · rw [Bool.not_eq_true] at hd
      have hfinds := @finds_scanToken ⟨l.cursor, l.tally.comments⟩ t l.settings.trivia
      rw [next_of_open hf hd] at h ⊢
      generalize scanToken l.settings.trivia ⟨l.cursor, l.tally.comments⟩ = r at hfinds h ⊢
      obtain ⟨result, q⟩ := r
      cases result with
      | error fault => simp at h
      | ok u =>
        obtain rfl := Except.ok.inj h
        simp only [record_cursor]
        exact hfinds rfl

theorem spans_next (h : l.next.result = .ok t) : Spans l t := by
  obtain ⟨m, gap, covered, hgap, hcovered, hspan, hne⟩ := finds_next h
  have hstart := hgap.offset
  have hstop := hcovered.offset
  refine ⟨?_, ?_, fun ht => ?_, ?_⟩ <;> rw [hspan] <;> simp only
  · rw [position]
    omega
  · omega
  · have hpos := Utf8.size_pos (hne ht)
    omega
  · rfl

/-- A call makes finitely many steps, and lets go of the source if it fails. -/
theorem reaches_next (l : Lexer) : ∃ d, l.cursor.Reaches d ∧
    (l.next.lexer.cursor = d ∨ l.next.lexer.cursor = d.close) := by
  cases hf : l.failure with
  | some error => exact ⟨l.cursor, reaches_refl _, .inl (by rw [next_of_failed hf])⟩
  | none =>
    by_cases hd : l.isDone = true
    · exact ⟨l.cursor, reaches_refl _, .inl (by rw [next_of_done hf hd])⟩
    · rw [Bool.not_eq_true] at hd
      have hreaches := reaches_scanToken l.settings.trivia ⟨l.cursor, l.tally.comments⟩
      rw [next_of_open hf hd]
      generalize scanToken l.settings.trivia ⟨l.cursor, l.tally.comments⟩ = r at hreaches ⊢
      obtain ⟨result, q⟩ := r
      refine ⟨q.cursor, hreaches, ?_⟩
      cases result with
      | error fault => exact .inr rfl
      | ok u => exact .inl (record_cursor _ _)

theorem pending_next (l : Lexer) : l.next.lexer.cursor.pending <:+ l.cursor.pending := by
  obtain ⟨d, hreaches, hd | hd⟩ := reaches_next l
  · rw [hd]
    exact hreaches.pending
  · rw [hd]
    exact List.nil_suffix

theorem Finds.ahead (h : Finds c d t) :
    d.ahead.length + (if t.value.isEof then 0 else 1) ≤ c.ahead.length := by
  obtain ⟨m, gap, covered, hgap, hcovered, -, hne⟩ := h
  have hc := congrArg List.length hgap.ahead
  have hm := congrArg List.length hcovered.ahead
  rw [List.length_append] at hc hm
  split
  · omega
  · rename_i ht
    have hpos := List.length_pos_iff.mpr (hne (by simpa using ht))
    omega

/-- A call gives a token, at the cost of a character, or it gives none. -/
theorem ahead_next (l : Lexer) : l.next.lexer.cursor.ahead.length +
    ((l.next.result.toOption.toList.map (·.value)).filter (!·.isEof)).length ≤
      l.cursor.ahead.length := by
  cases hr : l.next.result with
  | ok t =>
    have hle := (finds_next hr).ahead
    cases ht : t.value.isEof <;> simpa [Except.toOption, ht] using hle
  | error error =>
    simp only [Except.toOption, Option.toList_none, List.map_nil, List.filter_nil, List.length_nil]
    rcases l.next_cases with ⟨_, -, hn⟩ | ⟨-, -, hn⟩ | ⟨-, -, q, t, hn⟩ | ⟨-, -, q, _, hn⟩
    · rw [hn]
      exact Nat.le_refl _
    · simp [hn] at hr
    · simp [hn] at hr
    · rw [hn]
      exact Nat.zero_le _

/-- A call of a session asks for the next token, or it gives nothing and at most lets go of the
source. -/
theorem perform_cursor (l : Lexer) (call : Call) :
    ((l.perform call).after.cursor = l.next.lexer.cursor ∧ (l.perform call).given =
      (l.next.result.toOption.toList.map (·.value)).filter (!·.isEof)) ∨
    (((l.perform call).after.cursor = l.cursor ∨ (l.perform call).after.cursor = l.cursor.close) ∧
      (l.perform call).given = []) := by
  cases ha : l.asks call with
  | true =>
    obtain ⟨hscanned, hgiven⟩ := perform_of_asks ha
    exact .inl ⟨hscanned.cursor, hgiven⟩
  | false =>
    obtain ⟨-, -, hgiven⟩ := perform_of_not_asks ha
    refine .inr ⟨?_, hgiven⟩
    cases call with
    | next | nextToken => simp [asks] at ha
    | pull =>
      have hdrained := perform_drained (by simpa [asks] using ha)
      exact .inl (hdrained ▸ rfl)
    | close => exact .inr rfl
    | look => exact .inl rfl

/-- What a call gives is paid for by the characters ahead. -/
theorem ahead_perform (l : Lexer) (call : Call) :
    (l.perform call).after.cursor.ahead.length + (l.perform call).given.length ≤
      l.cursor.ahead.length := by
  obtain ⟨hcursor, hgiven⟩ | ⟨hcursor | hcursor, hgiven⟩ := perform_cursor l call
  · rw [hcursor, hgiven]
    exact ahead_next l
  · rw [hcursor, hgiven]
    exact Nat.le_refl _
  · rw [hcursor, hgiven]
    exact Nat.zero_le _

theorem pending_perform (l : Lexer) (call : Call) :
    (l.perform call).after.cursor.pending <:+ l.cursor.pending := by
  obtain ⟨hcursor, -⟩ | ⟨hcursor | hcursor, -⟩ := perform_cursor l call
  · exact hcursor ▸ pending_next l
  · exact hcursor ▸ List.suffix_refl _
  · exact hcursor ▸ List.nil_suffix

/-- All through a session the tokens given are at most as many as the characters decoded: those that
the lexer had decoded before, and those among the readings taken since. What was given and what is
still ahead are together no more than what was ahead at first. -/
theorem length_given_le (hs : l.session calls = past ++ e :: rest) :
    ∃ taken, l.cursor.pending = taken ++ e.after.cursor.pending ∧
      ((past ++ [e]).flatMap Entry.given).length ≤
        (l.cursor.window ++ Reading.chars taken).length := by
  have hrun := session_trace (l := l)
    (I := fun past m => m.cursor.ahead.length + (past.flatMap Entry.given).length ≤
      l.cursor.ahead.length ∧ m.cursor.pending <:+ l.cursor.pending)
    (fun past m call hm => by
      have hahead := ahead_perform m call
      refine ⟨?_, (pending_perform m call).trans hm.2⟩
      rw [List.flatMap_append, List.length_append, List.flatMap_singleton]
      omega)
    ⟨by simp, List.suffix_refl _⟩ hs
  obtain ⟨hgiven, taken, htaken⟩ := hrun
  refine ⟨taken, htaken.symm, ?_⟩
  rw [Cursor.ahead, Cursor.ahead, ← htaken, Reading.chars_append] at hgiven
  simp only [List.length_append] at hgiven ⊢
  omega

/-- Asking again and again comes to the end or to an error, since each token leaves less ahead. -/
theorem exists_stop (l : Lexer) : ∃ k ≤ l.cursor.ahead.length,
    ∀ t, (l.after k).next.result = .ok t → t.value.isEof = true := by
  induction hn : l.cursor.ahead.length using Nat.strongRecOn generalizing l with
  | ind n ih =>
    by_cases hstop : ∀ t, l.next.result = .ok t → t.value.isEof = true
    · exact ⟨0, Nat.zero_le _, hstop⟩
    · simp only [not_forall, Bool.not_eq_true] at hstop
      obtain ⟨t, hr, ht⟩ := hstop
      have hlt := (finds_next hr).ahead
      rw [ht, if_neg (by simp)] at hlt
      obtain ⟨k, hk, hend⟩ := ih _ (by omega) l.next.lexer rfl
      exact ⟨k + 1, by omega, hend⟩

theorem length_drain_le (l : Lexer) : l.drain.1.length ≤ l.cursor.ahead.length + 1 := by
  induction l using Lexer.drain.induct with
  | case1 l error h => simp [drain_of_error h]
  | case2 l t h ht => simp [drain_of_eof h ht]
  | case3 l t h ht _ _ _ _ _ ih =>
    rw [Bool.not_eq_true] at ht
    have hlt := (finds_next h).ahead
    rw [ht, if_neg (by simp)] at hlt
    rw [drain_of_ok h ht, List.length_cons]
    omega

theorem ahead_pull_lt {t : Token} (h : l.pull.1 = some (.ok t)) :
    l.pull.2.1.cursor.ahead.length < l.cursor.ahead.length := by
  by_cases hd : l.isDrained = true
  · simp [pull_of_drained hd] at h
  rw [Bool.not_eq_true] at hd
  cases hr : l.next.result with
  | error error => simp [pull_of_error hd hr] at h
  | ok u =>
    have hlt := (finds_next hr).ahead
    cases hu : u.value.isEof with
    | true => simp [pull_of_ok hd hr, hu] at h
    | false =>
      simp only [pull_of_ok hd hr, hu, Bool.false_eq_true, if_false] at hlt ⊢
      omega

theorem length_pullAll_le (l : Lexer) : l.pullAll.1.length ≤ l.cursor.ahead.length + 1 := by
  fun_induction pullAll l with
  | case1 => exact Nat.zero_le _
  | case2 => simp
  | case3 l t h results last notices hrest ih =>
    have hlt := ahead_pull_lt h
    rw [hrest] at ih
    simp only [List.length_cons] at ih ⊢
    omega

end Lexer

namespace Dump

open Lexer

/-- The writer has asked for the call to be made again. -/
def Request.isAgain : Request → Bool
  | write _ .again => true
  | _ => false

/-- The last request of its kind: the writer has refused it, or it is to flush. -/
def Request.isLast (r : Request) : Bool := r.refusal.isSome || !r.isWrite

variable {σ : Type} {w : Writer σ} {s s' : σ} {requests : List Request} {bytes : Bytes}
  {result : Except Fault Unit}

theorem again_or_last_or_accepted {chunk : Bytes} (h : chunk ≠ []) (answer : Answer) :
    (Request.write chunk answer).isAgain = true ∨ (Request.write chunk answer).isLast = true ∨
      0 < (Request.write chunk answer).accepted.length := by
  have hpos := List.length_pos_iff.mpr h
  cases answer with
  | again => exact .inl rfl
  | failed cause => exact .inr (.inl rfl)
  | took n =>
    cases n with
    | zero => exact .inr (.inl rfl)
    | succ n =>
      right; right
      rw [Request.accepted, List.length_take]
      omega

theorem countP_cons_le {request : Request}
    (h : request.isAgain = true ∨ request.isLast = true ∨ 0 < request.accepted.length)
    (hrest : requests.countP (!·.isAgain) ≤
      (accepted requests).length + requests.countP Request.isLast) :
    (request :: requests).countP (!·.isAgain) ≤
      (accepted (request :: requests)).length + (request :: requests).countP Request.isLast := by
  rw [accepted_cons, List.length_append, List.countP_cons, List.countP_cons]
  rcases h with h | h | h
  · rw [if_neg (by simp [h])]
    omega
  · rw [if_pos h]
    split <;> omega
  · split <;> omega

/-- A request that is not made again and is none of the last ones gets a byte across. -/
theorem Answers.countP_le (h : Answers w s requests s') :
    requests.countP (!·.isAgain) ≤
      (accepted requests).length + requests.countP Request.isLast := by
  induction h with
  | nothing => exact Nat.zero_le _
  | write nonempty more ih => exact countP_cons_le (again_or_last_or_accepted nonempty _) ih
  | flush more ih =>
    exact countP_cons_le (.inr (.inl (by simp [Request.isLast, Request.isWrite]))) ih

/-- Handing over bytes takes at most one request for each byte, and one that is refused. -/
theorem Hands.accepted_le (h : Hands bytes requests result) :
    (accepted requests).length + requests.countP Request.isLast ≤ bytes.length + 1 := by
  have hsteady : ∀ earlier : List Request, (∀ r ∈ earlier, r.isWrite = true ∧ r.refusal = none) →
      earlier.countP Request.isLast = 0 := by
    intro earlier hs
    refine List.countP_eq_zero.mpr fun r hr => ?_
    obtain ⟨hwrite, hrefusal⟩ := hs r hr
    simp [Request.isLast, hwrite, hrefusal]
  cases h with
  | whole steady all =>
    rw [hsteady requests steady, all]
    omega
  | @refused fault earlier last split steady isWrite refusal part short =>
    have hlast : requests.countP Request.isLast ≤ 1 := by
      rw [split, List.countP_append, hsteady earlier steady, List.countP_cons, List.countP_nil]
      split <;> omega
    omega

/-- A dump asks the writer at most once for each byte that there is to write, once more for a
refusal and once to flush, not counting the calls that had to be made again. -/
theorem run_requests (settings : Settings.Dumping) (elapsed : Nat) (l : Lexer) (d : Delivery σ) :
    ∃ requests, d.Asks requests (run settings elapsed l d).delivery ∧
      requests.countP (!·.isAgain) ≤ (script settings (proper l.drain.1)).length + 2 := by
  obtain ⟨lines, last, result, hasks, hhands, hlast⟩ := run_asks settings elapsed l d
  have hcount := hasks.answers.countP_le
  have hbytes := hhands.accepted_le
  have hflush : (accepted last).length + last.countP Request.isLast ≤ 1 := by
    obtain rfl | ⟨fault, rfl⟩ := hlast
    · exact Nat.zero_le _
    · have hnothing : (accepted [.flush fault]).length = 0 := rfl
      have hone : [Request.flush fault].countP Request.isLast ≤ 1 := List.countP_le_length
      omega
  have hsum : (lines ++ last).countP Request.isLast =
      lines.countP Request.isLast + last.countP Request.isLast := List.countP_append
  refine ⟨lines ++ last, hasks, ?_⟩
  rw [accepted_append, List.length_append, hsum] at hcount
  omega

end Dump

namespace Lexer

open Dump

/-- The lexer has decoded the first of these readings, and the rest is pending. -/
def Primed (rs : List Reading) (l : Lexer) : Prop :=
  ∃ decoded, rs = decoded ++ l.cursor.pending ∧ l.cursor.window = Reading.chars decoded

variable {feed : Feed} {settings : Settings.Scanning} {l : Lexer}

theorem primed_ofFeed (h : (ofFeed feed settings).1 = .ok l) : Primed feed.readings l := by
  rw [ofFeed, unprimed] at h
  generalize feed.readings = rs at h ⊢
  cases rs with
  | nil =>
    obtain rfl := Except.ok.inj h
    exact ⟨[], rfl, rfl⟩
  | cons first rest =>
    cases first with
    | fault _ => simp [prime, Cursor.read] at h
    | finish =>
      obtain rfl := Except.ok.inj h
      exact ⟨[.finish], rfl, rfl⟩
    | char a =>
      cases rest with
      | nil =>
        obtain rfl := Except.ok.inj h
        exact ⟨[.char a], rfl, rfl⟩
      | cons second rest =>
        cases second with
        | fault _ => simp [prime, Cursor.read] at h
        | char _ | finish =>
          obtain rfl := Except.ok.inj h
          exact ⟨[.char a, _], rfl, rfl⟩

theorem primed_ofText (text : String) (settings : Settings.Scanning) :
    Primed (text.toList.map .char) (ofText text settings) := by
  rw [ofText]
  match text.toList with
  | [] => exact ⟨[], rfl, rfl⟩
  | [a] => exact ⟨[.char a], rfl, rfl⟩
  | a :: b :: rest => exact ⟨[.char a, .char b], rfl, rfl⟩

/-- What keeps a lexer, in any state, from going on for ever. -/
structure Progresses (l : Lexer) : Prop where
  /-- A call makes finitely many steps, and lets go of the source if it fails. -/
  ends : ∃ d, l.cursor.Reaches d ∧
    (l.next.lexer.cursor = d ∨ l.next.lexer.cursor = d.close)
  spans : ∀ t, l.next.result = .ok t → Spans l t
  /-- At every point of a session there were at most as many tokens as characters were decoded. -/
  given : ∀ calls past e rest, l.session calls = past ++ e :: rest →
    ∃ taken, l.cursor.pending = taken ++ e.after.cursor.pending ∧
      ((past ++ [e]).flatMap Entry.given).length ≤
        (l.cursor.window ++ Reading.chars taken).length
  stops : ∃ k ≤ l.cursor.ahead.length,
    ∀ t, (l.after k).next.result = .ok t → t.value.isEof = true
  drained : l.drain.1.length ≤ l.cursor.ahead.length + 1
  pulled : l.pullAll.1.length ≤ l.cursor.ahead.length + 1
  /-- A dump asks the writer a number of times that what there is to write bounds, not counting the
  calls that had to be made again. -/
  dumped : ∀ (σ : Type) (settings : Settings.Dumping) (elapsed : Nat) (d : Delivery σ),
    ∃ requests, d.Asks requests (run settings elapsed l d).delivery ∧
      requests.countP (!·.isAgain) ≤ (script settings (proper l.drain.1)).length + 2

/-- Whatever a feed hands out, and whatever state a lexer is in, every call of the lexer ends, with
a token that covers some of the source, with the end token or with an error. What is decoded of the
feed bounds the tokens that a lexer gives, and with it everything that asks for tokens until the
end. -/
theorem lexer_progresses (feed : Feed) (settings : Settings.Scanning) :
    feed.readings.length ≤ feed.size ∧
      (∀ l, (ofFeed feed settings).1 = .ok l → Primed feed.readings l) ∧
      (∀ text, Primed (text.toList.map .char) (ofText text settings)) ∧
      ∀ l : Lexer, Progresses l := by
  refine ⟨feed.length_readings_le, fun l => primed_ofFeed,
    fun text => primed_ofText text settings, fun l => ?_⟩
  exact {
    ends := reaches_next l
    spans := fun t => spans_next
    given := fun calls past e rest => length_given_le
    stops := exists_stop l
    drained := length_drain_le l
    pulled := length_pullAll_le l
    dumped := fun σ settings elapsed d => run_requests settings elapsed l d }

end Lexer
end TokenDump
