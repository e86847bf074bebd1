import TokenDump.Proofs.ScanEvents

/-! # Pulling tokens

A lexer is asked for the next token, for the token alone, or pulled until it has come to its end, and
it can be looked at in between. All calls walk along the same tokens: as long as pulling has not
ended, the next call gives what it would give after as many calls of `next`. -/
namespace TokenDump.Lexer

/-- What a call answers that finds this result of `next`, if it asks for a token at all. -/
def Call.answer? (result : Except ReadError (Located Token)) : Call → Option Answer
  | .next => some (.located result)
  | .nextToken => some (.token (result.map (·.value)))
  | .pull =>
    match result with
    | .ok t => some (.pulled (if t.value.isEof then none else some (.ok t.value)))
    | .error error => some (.pulled (some (.error error)))
  | .close => none
  | .look => none

/-- Whether the call is the one with which pulling ends: it finds the end, or an error. -/
def Entry.endsPulling (e : Entry) : Bool :=
  match e.answer with
  | .pulled none => true
  | .pulled (some (.error _)) => true
  | _ => false

/-- The call of `e` gives what the call of `next` in `ref` gives, and leaves the same behind. -/
structure Alongside (ref e : Entry) : Prop where
  answer : ∃ result, ref.answer = .located result ∧ e.call.answer? result = some e.answer
  position : e.after.position = ref.after.position
  tally : e.after.tally = ref.after.tally
  isDone : e.after.isDone = ref.after.isDone
  notices : e.notices = ref.notices

/-- Until pulling has ended, each of these calls finds the lexer as the same number of calls of `next`
leaves it, looks not counted, and gives what one more call of `next` gives there. -/
def Abreast (l : Lexer) (entries : List Entry) : Prop :=
  ∀ past e rest, entries = past ++ e :: rest → (∀ x ∈ past, x.endsPulling = false) →
    ∃ before ref, l.session (.replicate (past.countP (·.call ≠ .look) + 1) .next) =
        before ++ [ref] ∧
      e.before = ref.before ∧ (e.call ≠ .look → Alongside ref e)

/-- The lexer after this many calls of `next`. -/
def nexts (l : Lexer) : Nat → Lexer
  | 0 => l
  | n + 1 => nexts l.next.lexer n

variable {l : Lexer} {call : Call} {calls : List Call} {past rest : List Entry} {e : Entry}
  {settings : Settings.Scanning}

theorem session_replicate_next (l : Lexer) (n : Nat) :
    ∃ before, l.session (.replicate (n + 1) .next) = before ++ [(l.nexts n).perform .next] := by
  induction n generalizing l with
  | zero => exact ⟨[], rfl⟩
  | succ n ih =>
    obtain ⟨before, hrest⟩ := ih l.next.lexer
    refine ⟨l.perform .next :: before, ?_⟩
    rw [List.replicate_succ, session]
    exact congrArg (l.perform .next :: ·) hrest

/-- A call that asks for a token, while pulling has not ended. Only ending marks the lexer. -/
theorem perform_asking (hd : l.isDrained = false) (hclose : call ≠ .close) (hlook : call ≠ .look) :
    Alongside (l.perform .next) (l.perform call) ∧
      ((l.perform call).endsPulling = false → (l.perform call).after = l.next.lexer) := by
  cases call with
  | next => exact ⟨⟨⟨_, rfl, rfl⟩, rfl, rfl, rfl, rfl⟩, fun _ => rfl⟩
  | nextToken => exact ⟨⟨⟨_, rfl, rfl⟩, rfl, rfl, rfl, rfl⟩, fun _ => rfl⟩
  | pull =>
    cases hr : l.next.result with
    | error error =>
      simp only [perform, pull_of_error hd hr]
      refine ⟨⟨⟨.error error, ?_, rfl⟩, rfl, rfl, rfl, rfl⟩, fun h => ?_⟩
      · exact congrArg Answer.located hr
      · simp [Entry.endsPulling] at h
    | ok t =>
      simp only [perform, pull_of_ok hd hr]
      cases ht : t.value.isEof with
      | true =>
        refine ⟨⟨⟨.ok t, congrArg Answer.located hr, ?_⟩, rfl, rfl, rfl, rfl⟩, fun h => ?_⟩
        · simp [Call.answer?, ht]
        · simp [Entry.endsPulling] at h
      | false =>
        refine ⟨⟨⟨.ok t, congrArg Answer.located hr, ?_⟩, rfl, rfl, rfl, rfl⟩, fun _ => rfl⟩
        simp [Call.answer?, ht]
  | close => exact absurd rfl hclose
  | look => exact absurd rfl hlook

/-- Where a call stands that comes before the end of pulling. -/
theorem session_nexts (hd : l.isDrained = false) (hclose : .close ∉ calls)
    (hs : l.session calls = past ++ e :: rest) (hopen : ∀ x ∈ past, x.endsPulling = false) :
    ∃ call, call ≠ .close ∧ (l.nexts (past.countP (·.call ≠ .look))).isDrained = false ∧
      e = (l.nexts (past.countP (·.call ≠ .look))).perform call := by
  induction past generalizing l calls with
  | nil =>
    cases calls with
    | nil => simp [session] at hs
    | cons call calls =>
      obtain ⟨rfl, -⟩ := List.cons.inj hs
      exact ⟨call, fun h => hclose (h ▸ List.mem_cons_self), hd, rfl⟩
  | cons first past ih =>
    cases calls with
    | nil => simp [session] at hs
    | cons call calls =>
      obtain ⟨rfl, htail⟩ := List.cons.inj hs
      obtain ⟨hfirst, hpast⟩ := List.forall_mem_cons.mp hopen
      have hcall : call ≠ .close := fun h => hclose (h ▸ List.mem_cons_self)
      have hcalls : .close ∉ calls := fun h => hclose (List.mem_cons_of_mem _ h)
      by_cases hlook : call = .look
      · subst hlook
        have hcount : (l.perform .look :: past).countP (·.call ≠ .look) =
            past.countP (·.call ≠ .look) := List.countP_cons_of_neg (by simp)
        rw [hcount]
        exact ih hd hcalls htail hpast
      · have hcount : (l.perform call :: past).countP (·.call ≠ .look) =
            past.countP (·.call ≠ .look) + 1 := List.countP_cons_of_pos (by simpa using hlook)
        have hafter := (perform_asking hd hcall hlook).2 hfirst
        rw [hafter] at htail
        rw [hcount]
        exact ih (l.next_isDrained.trans hd) hcalls htail hpast

theorem abreast_of_open (hd : l.isDrained = false) (hclose : .close ∉ calls) :
    Abreast l (l.session calls) := by
  intro past e rest hs hopen
  obtain ⟨call, hcall, hdrained, rfl⟩ := session_nexts hd hclose hs hopen
  obtain ⟨before, hbefore⟩ := l.session_replicate_next (past.countP (·.call ≠ .look))
  refine ⟨before, _, hbefore, ?_, fun hlook => ?_⟩
  · rw [perform_before, perform_before]
  · rw [perform_call] at hlook
    exact (perform_asking hdrained hcall hlook).1

theorem Fresh.isDrained (h : Fresh settings l) : l.isDrained = false := by
  cases h with
  | ofFeed made => exact (coherent_ofFeed made).2.2.2
  | ofText text => rfl

/-- All ways of pulling tokens walk along the same tokens, from a text and from any feed, as far as
pulling goes and up to an error. The tokens of a text are those that calls of `next` give up to the
end, and the end token is the last of them and no other. -/
theorem session_abreast (settings : Settings.Scanning) :
    (∀ l, Fresh settings l → ∀ calls, .close ∉ calls → Abreast l (l.session calls)) ∧
    ∀ text, ∃ tokens eof, tokenize text settings = .ok ((tokens ++ [eof]).map (·.value)) ∧
      ((ofText text settings).session (.replicate (tokens.length + 1) .next)).map (·.answer) =
        (tokens ++ [eof]).map (fun t => .located (.ok t)) ∧
      eof.value.isEof = true ∧ ∀ t ∈ tokens, t.value.isEof = false := by
  refine ⟨fun l hl calls hclose => abreast_of_open hl.isDrained hclose, fun text => ?_⟩
  have hl : FreshOn settings text (ofText text settings) := .ofText
  obtain ⟨tokens, eof, last, -, hfinishes, -⟩ := hl.finishes
  obtain ⟨before, first, hsession, hanswers, -, hends, -⟩ := hfinishes.session 0
  obtain ⟨htokens, hfailure⟩ := hfinishes.drain
  refine ⟨tokens, eof, tokenize_of_drain htokens hfailure, ?_, hfinishes.isEof, hfinishes.proper⟩
  rw [hsession, List.map_append, List.map_append, hanswers, List.map_cons, hends]
  rfl

/-- An error that another call has met before it is pulled. -/
theorem session_abreast_failing :
    let feed : Feed := [.bytes [0x61], .bytes [0x2B, 0x62], .fault ⟨.timedOut, "too late"⟩]
    let calls : List Call := [.pull, .look, .nextToken, .pull, .pull]
    ∃ l past e rest, (ofFeed feed ⟨.strict, true, true⟩).1 = .ok l ∧
      l.session calls = past ++ e :: rest ∧ (∀ x ∈ past, x.endsPulling = false) ∧
      e.call = .pull ∧ e.endsPulling = true ∧ Abreast l (l.session calls) := by
  intro feed calls
  have hlast : feed.read.2.read.2.read.2.read.2 = [] := rfl
  have hreadings : feed.readings =
      [.char 'a', .char '+', .char 'b', .fault ⟨.timedOut, "too late"⟩] := by
    rw [Feed.readings_of_ne_nil (by decide), Feed.readings_of_ne_nil (by decide),
      Feed.readings_of_ne_nil (by decide), Feed.readings_of_ne_nil (by decide), hlast,
      Feed.readings_nil]
    rfl
  let l := ofCursor
    ⟨[.char 'b', .fault ⟨.timedOut, "too late"⟩], some 'a', some '+', .start, false⟩
    ⟨.strict, true, true⟩
  have hmade : (ofFeed feed ⟨.strict, true, true⟩).1 = .ok l := by
    rw [ofFeed, Cursor.unprimed, hreadings]
    rfl
  have hclose : .close ∉ calls := by decide
  let third := ((l.perform .pull).after.perform .nextToken).after
  refine ⟨l, [_, _, _], third.perform .pull, _, hmade, rfl, by decide +kernel, rfl,
    by decide +kernel, ?_⟩
  exact (session_abreast ⟨.strict, true, true⟩).1 l (.ofFeed hmade) calls hclose

end TokenDump.Lexer
