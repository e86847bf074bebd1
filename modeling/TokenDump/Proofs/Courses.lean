import TokenDump.Proofs.Dumping
import TokenDump.Dump.InPlace

/-! # The course of a dump

A dump takes one token after the other and delivers its line, until the source ends, cannot be read
any further, or a line is refused. This holds of a dump of a file onto itself as well, although the
next token depends there on what has been delivered before. -/
namespace TokenDump.Dump

open Lexer

/-- How a dump gets the next token, and how it delivers the line of one. -/
structure Channel (σ : Type) where
  next : Lexer → Delivery σ → Lexer.Step (Located Token)
  put : Located Token → Delivery σ → Except Fault Unit × Delivery σ

/-- What a dump stops at. -/
inductive Stop where
  /-- The end of the source, on this line. -/
  | ended (line : Nat)
  | unread (error : ReadError)
  | refused (fault : Fault)

/-- What the delivery of lines comes to when it stops after the lines of so many tokens. -/
def Stop.result (tokens illegal : Nat) : Stop → Except DumpError Summary
  | .ended line => .ok ⟨tokens, illegal, line⟩
  | .unread error => .error (.unread (.unread error))
  | .refused fault => .error (.unwritten fault)

variable {σ : Type} {c : Channel σ} {settings : Settings.Dumping} {l last last' : Lexer}
  {d e e' : Delivery σ} {t : Located Token} {ts ts' : List (Located Token)} {stop stop' : Stop}
  {n k : Nat}

/-- A dump delivers the lines of these tokens and then stops. -/
inductive Course (c : Channel σ) :
    Lexer → Delivery σ → List (Located Token) → Stop → Lexer → Delivery σ → Prop
  | unread {l : Lexer} {d : Delivery σ} {error : ReadError}
      (failed : (c.next l d).result = .error error) :
      Course c l d [] (.unread error) (c.next l d).lexer d
  | ended {l : Lexer} {d : Delivery σ} {t : Located Token} (given : (c.next l d).result = .ok t)
      (eof : t.value.isEof = true) :
      Course c l d [] (.ended t.span.stop.line) (c.next l d).lexer d
  | refused {l : Lexer} {d e : Delivery σ} {t : Located Token} {fault : Fault}
      (given : (c.next l d).result = .ok t) (proper : t.value.isEof = false)
      (put : c.put t d = (.error fault, e)) :
      Course c l d [] (.refused fault) (c.next l d).lexer e
  | line {l last : Lexer} {d e e' : Delivery σ} {t : Located Token} {ts : List (Located Token)}
      {stop : Stop} (given : (c.next l d).result = .ok t) (proper : t.value.isEof = false)
      (put : c.put t d = (.ok ⟨⟩, e)) (rest : Course c (c.next l d).lexer e ts stop last e') :
      Course c l d (t :: ts) stop last e'

/-- The delivery of all lines, given how all but the first one are delivered. -/
def Channel.deliver (c : Channel σ) (lines : Lexer → Delivery σ → Nat → Nat → Outcome σ) (l : Lexer)
    (d : Delivery σ) (n k : Nat) : Outcome σ :=
  let step := c.next l d
  match step.result with
  | .error error => ⟨.error (.unread (.unread error)), step.lexer, d, step.notices⟩
  | .ok t =>
    if t.value.isEof then ⟨.ok ⟨n, k, t.span.stop.line⟩, step.lexer, d, step.notices⟩
    else
      match c.put t d with
      | (.error fault, e) => ⟨.error (.unwritten fault), step.lexer, e,
          step.notices ++ [tokenNotice t] ++ [writeNotice fault]⟩
      | (.ok _, e) =>
        let rest := lines step.lexer e (n + 1) (if t.value.isIllegal then k + 1 else k)
        { rest with notices := step.notices ++ [tokenNotice t] ++ rest.notices }

/-- The function delivers lines through the channel. -/
def Channel.Through (c : Channel σ) (lines : Lexer → Delivery σ → Nat → Nat → Outcome σ) : Prop :=
  ∀ l d n k, lines l d n k = c.deliver lines l d n k

/-- A source that stays as it is, and any writer. -/
def Channel.plain (settings : Settings.Dumping) : Channel σ := ⟨fun l _ => l.next, putLine settings⟩

/-- A file that is as large as files can be takes no more lines. -/
def putLineInPlace (settings : Settings.Dumping) (t : Located Token) (d : Delivery FileProgress) :
    Except Fault Unit × Delivery FileProgress :=
  if Folder.fileLimit ≤ d.received.size then (.error .fileTooLarge, d) else putLine settings t d

/-- A file that is both source and destination. -/
def Channel.inPlace (settings : Settings.Dumping) (fetched : Bytes) : Channel FileProgress :=
  ⟨fun l d => nextInPlace fetched d l, putLineInPlace settings⟩

theorem through_putLines (settings : Settings.Dumping) :
    (Channel.plain settings : Channel σ).Through (putLines settings) := by
  intro l d n k
  cases hr : l.next.result with
  | error error => simp only [putLines_of_error hr, Channel.deliver, Channel.plain, hr]
  | ok t =>
    cases ht : t.value.isEof with
    | true => simp [putLines_of_eof hr ht, Channel.deliver, Channel.plain, hr, ht]
    | false =>
      rw [putLines_of_ok hr ht, Channel.deliver]
      cases hput : putLine settings t d with | mk put e =>
      cases put <;> simp only [Channel.plain, hr, ht, hput, Bool.false_eq_true, if_false]

theorem through_putLinesInPlace (settings : Settings.Dumping) (fetched : Bytes) :
    (Channel.inPlace settings fetched).Through (putLinesInPlace settings fetched) := by
  intro l d n k
  rw [putLinesInPlace]
  simp only [Channel.deliver, Channel.inPlace, putLineInPlace]
  cases (nextInPlace fetched d l).result with
  | error error => rfl
  | ok t =>
    cases ht : t.value.isEof with
    | true => simp only [ht, if_true]
    | false =>
      by_cases hfull : Folder.fileLimit ≤ d.received.size
      · simp only [ht, hfull, Bool.false_eq_true, if_false, dif_pos, if_pos]
      · simp only [ht, hfull, Bool.false_eq_true, if_false, dif_neg, not_false_eq_true]
        generalize putLine settings t d = r
        obtain ⟨put, e⟩ := r
        cases put <;> rfl

/-- The course of a dump says what the dump comes to. -/
theorem Course.outcome {lines : Lexer → Delivery σ → Nat → Nat → Outcome σ}
    (h : Course c l d ts stop last e) (hc : c.Through lines) (n k : Nat) :
    (lines l d n k).result = stop.result (n + ts.length) (k + illegals ts) ∧
      (lines l d n k).lexer = last ∧ (lines l d n k).delivery = e := by
  induction h generalizing n k with
  | unread failed =>
    rw [hc, Channel.deliver]
    simp [failed, Stop.result]
  | ended given eof =>
    rw [hc, Channel.deliver]
    simp [given, eof, Stop.result, illegals]
  | refused given proper put =>
    rw [hc, Channel.deliver]
    simp [given, proper, put, Stop.result]
  | @line l last d e e' t ts stop given proper put rest ih =>
    have htokens : n + (t :: ts).length = n + 1 + ts.length := by
      rw [List.length_cons]
      omega
    have hillegal : k + illegals (t :: ts) =
        (if t.value.isIllegal then k + 1 else k) + illegals ts := by
      rw [illegals, List.countP_cons]
      split <;> simp only [illegals] <;> omega
    rw [hc, Channel.deliver, htokens, hillegal]
    simp only [given, proper, put, Bool.false_eq_true, if_false]
    exact ih _ _

/-- A dump in which every line brings something down comes to a stop. -/
theorem exists_course (c : Channel σ) (measure : Lexer → Delivery σ → Nat)
    (hlt : ∀ l d t e, (c.next l d).result = .ok t → t.value.isEof = false →
      c.put t d = (.ok ⟨⟩, e) → measure (c.next l d).lexer e < measure l d)
    (l : Lexer) (d : Delivery σ) : ∃ ts stop last e, Course c l d ts stop last e := by
  induction hm : measure l d using Nat.strong_induction_on generalizing l d with
  | _ m ih =>
    cases hr : (c.next l d).result with
    | error error => exact ⟨_, _, _, _, .unread hr⟩
    | ok t =>
      cases ht : t.value.isEof with
      | true => exact ⟨_, _, _, _, .ended hr ht⟩
      | false =>
        cases hput : c.put t d with | mk put e =>
        cases put with
        | error fault => exact ⟨_, _, _, _, .refused hr ht hput⟩
        | ok u =>
          have hless := hlt l d t e hr ht hput
          obtain ⟨ts, stop, last, e', hrest⟩ := ih _ (hm ▸ hless) _ _ rfl
          exact ⟨_, _, _, _, .line hr ht hput hrest⟩

/-- Every line takes something from a source that stays as it is. -/
theorem exists_course_plain (settings : Settings.Dumping) (l : Lexer) (d : Delivery σ) :
    ∃ ts stop last e, Course (.plain settings) l d ts stop last e :=
  exists_course _ (fun l _ => l.cursor.remaining)
    (fun _ _ _ _ hr ht _ => remaining_next_lt hr ht) l d

/-- Every line leaves less room in a file that is dumped onto itself. -/
theorem exists_course_inPlace (settings : Settings.Dumping) (fetched : Bytes) (l : Lexer)
    (d : Delivery FileProgress) :
    ∃ ts stop last e, Course (.inPlace settings fetched) l d ts stop last e := by
  refine exists_course _ (fun _ d => Folder.fileLimit - d.received.size) ?_ l d
  intro l d t e _ _ hput
  simp only [Channel.inPlace, putLineInPlace] at hput
  split at hput
  · cases hput
  · rename_i hroom
    have hsize := size_putLine_lt (congrArg Prod.fst hput)
    rw [hput] at hsize
    simp only at hsize ⊢
    omega

end TokenDump.Dump
