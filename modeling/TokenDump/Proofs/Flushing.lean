import Mathlib.Data.List.DropRight
import TokenDump.Proofs.Willing

/-! # Flushing

A dump flushes behind the last line, as long as the source is read to its end. If it is not, the
dump returns at once, and what the writer has taken is never flushed. The calls of a writer are
noted down here by another writer in front of it, which changes nothing else. -/
namespace TokenDump.Dump

open Lexer

variable {σ : Type}

/-- A writer that passes every call on and notes it down. -/
def Writer.noting (w : Writer σ) : Writer (σ × List Request) where
  write s chunk :=
    let (answer, state) := w.write s.1 chunk
    (answer, (state, s.2 ++ [.write chunk answer]))
  flush s :=
    let (fault, state) := w.flush s.1
    (fault, (state, s.2 ++ [.flush fault]))
  patience s := w.patience s.1
  patience_lt s chunk h := w.patience_lt s.1 chunk h

/-- The delivery with notes, where these calls were noted before. -/
def Delivery.noting (d : Delivery σ) (past : List Request) : Delivery (σ × List Request) :=
  ⟨d.writer.noting, (d.state, past), d.received, d.flushes⟩

/-- The calls that a dump makes of a writer, with their answers. -/
def calls (settings : Settings.Dumping) (elapsed : Nat) (l : Lexer) (w : Writer σ) (s : σ) :
    List Request :=
  (run settings elapsed l ((Delivery.start w s).noting [])).delivery.state.2

/-- The bytes that a writer has taken since it was last flushed. -/
def unflushed (requests : List Request) : Bytes := accepted (requests.rtakeWhile Request.isWrite)

/-- Two dumps that differ only in the notes of the second one. -/
structure Outcome.Noted (o : Outcome σ) (o' : Outcome (σ × List Request)) : Prop where
  result : o'.result = o.result
  lexer : o'.lexer = o.lexer
  notices : o'.notices = o.notices
  delivery : ∃ past, o'.delivery = o.delivery.noting past

variable {w : Writer σ} {s : σ} {s' last : σ × List Request} {d : Delivery σ}
  {requests past : List Request} {settings : Settings.Dumping} {l : Lexer} {t : Located Token}
  {n k elapsed : Nat} {b : UInt8} {rest chunk : Bytes} {o : Outcome σ}
  {o' : Outcome (σ × List Request)}

theorem Answers.notes (h : Answers w.noting s' requests last) : last.2 = s'.2 ++ requests := by
  induction h with
  | nothing => exact (List.append_nil _).symm
  | write nonempty more ih => rw [ih, Writer.noting, List.append_assoc, List.singleton_append]
  | flush more ih => rw [ih, Writer.noting, List.append_assoc, List.singleton_append]

theorem Answers.unnoted (h : Answers w.noting s' requests last) :
    Answers w s'.1 requests last.1 := by
  induction h with
  | nothing => exact .nothing
  | write nonempty more ih => exact .write nonempty ih
  | flush more ih => exact .flush ih

theorem Writer.Willing.noting (hw : w.Willing) : w.noting.Willing :=
  ⟨fun s => hw.write s.1, fun s => hw.flush s.1⟩

namespace Delivery

theorem put_of_write {answer : Answer} {state : σ}
    (hw : d.writer.write d.state (b :: rest) = (answer, state)) :
    d.put (b :: rest) = match answer with
      | .took 0 => (.error .writeZero, { d with state })
      | .took (n + 1) =>
        put { d with state, received := d.received ++ b :: rest.take n } (rest.drop n)
      | .again => put { d with state } (b :: rest)
      | .failed cause => (.error cause, { d with state }) := by
  rw [put]
  split
  all_goals
    rename_i h
    obtain ⟨rfl, rfl⟩ := Prod.ext_iff.mp (h.symm.trans hw)
    rfl

theorem write_noting {answer : Answer} {state : σ}
    (hw : d.writer.write d.state chunk = (answer, state)) (past : List Request) :
    (d.noting past).writer.write (d.noting past).state chunk =
      (answer, (state, past ++ [.write chunk answer])) := by
  simp only [noting, Writer.noting, hw]

/-- Handing over a chunk goes the same way with notes. -/
theorem put_noting (d : Delivery σ) (chunk : Bytes) (past : List Request) :
    ∃ past', (d.noting past).put chunk = ((d.put chunk).1, (d.put chunk).2.noting past') := by
  fun_induction put d chunk generalizing past with
  | case1 d => exact ⟨past, by rw [put]⟩
  | case2 d b rest state hw => exact ⟨_, put_of_write (write_noting hw past)⟩
  | case3 d b rest n state hw ih =>
    obtain ⟨past', h⟩ := ih (past ++ [.write (b :: rest) (.took (n + 1))])
    exact ⟨past', (put_of_write (write_noting hw past)).trans h⟩
  | case4 d b rest state hw ih =>
    obtain ⟨past', h⟩ := ih (past ++ [.write (b :: rest) .again])
    exact ⟨past', (put_of_write (write_noting hw past)).trans h⟩
  | case5 d b rest cause state hw => exact ⟨_, put_of_write (write_noting hw past)⟩

theorem flush_noting (d : Delivery σ) (past : List Request) :
    ∃ past', (d.noting past).flush = (d.flush.1, d.flush.2.noting past') := by
  cases hw : d.writer.flush d.state with | mk fault state =>
  refine ⟨past ++ [.flush fault], ?_⟩
  cases fault <;> simp only [flush, noting, Writer.noting, hw]

end Delivery

theorem putLine_noting (settings : Settings.Dumping) (t : Located Token) (d : Delivery σ)
    (past : List Request) : ∃ past', putLine settings t (d.noting past) =
      ((putLine settings t d).1, (putLine settings t d).2.noting past') := by
  obtain ⟨past', hput⟩ := d.put_noting (Utf8.encode (line t settings).toList) past
  rw [putLine, putLine, hput]
  generalize d.put (Utf8.encode (line t settings).toList) = r
  obtain ⟨result, e⟩ := r
  cases result with
  | error fault => exact ⟨past', rfl⟩
  | ok u => exact e.put_noting (Utf8.encode separator.toList) past'

theorem putLines_noting (settings : Settings.Dumping) (l : Lexer) (d : Delivery σ)
    (past : List Request) (n k : Nat) :
    (putLines settings l d n k).Noted (putLines settings l (d.noting past) n k) := by
  induction l using Lexer.drain.induct generalizing d past n k with
  | case1 l error h =>
    rw [putLines_of_error h, putLines_of_error h]
    exact ⟨rfl, rfl, rfl, past, rfl⟩
  | case2 l t h ht =>
    rw [putLines_of_eof h ht, putLines_of_eof h ht]
    exact ⟨rfl, rfl, rfl, past, rfl⟩
  | case3 l t h ht _ _ _ _ _ ih =>
    rw [Bool.not_eq_true] at ht
    obtain ⟨past', hline⟩ := putLine_noting settings t d past
    rw [putLines_of_ok h ht, putLines_of_ok h ht, hline]
    generalize putLine settings t d = r
    obtain ⟨result, e⟩ := r
    cases result with
    | error fault => exact ⟨rfl, rfl, rfl, past', rfl⟩
    | ok u =>
      have hrest := ih e past' (n + 1) (if t.value.isIllegal then k + 1 else k)
      exact ⟨hrest.result, hrest.lexer, congrArg _ hrest.notices, hrest.delivery⟩

theorem Outcome.Noted.finish (h : o.Noted o') (settings : Settings.Dumping) (elapsed : Nat) :
    (finish settings elapsed o).Noted (finish settings elapsed o') := by
  obtain ⟨past, hdelivery⟩ := h.delivery
  rw [Dump.finish, Dump.finish, h.result, hdelivery, h.notices]
  cases o.result with
  | error error => exact h
  | ok summary =>
    obtain ⟨past', hflush⟩ := o.delivery.flush_noting past
    rw [hflush]
    generalize o.delivery.flush = r
    obtain ⟨flushed, e⟩ := r
    cases flushed with
    | error fault => exact ⟨rfl, h.lexer, rfl, past', rfl⟩
    | ok u => exact ⟨rfl, h.lexer, rfl, past', rfl⟩

/-- A dump to a writer with notes is the dump to the writer. -/
theorem run_noting (settings : Settings.Dumping) (elapsed : Nat) (l : Lexer) (d : Delivery σ)
    (past : List Request) :
    (run settings elapsed l d).Noted (run settings elapsed l (d.noting past)) := by
  have h := (putLines_noting settings l d past 0 0).finish settings elapsed
  exact ⟨h.result, h.lexer, congrArg _ h.notices, h.delivery⟩

theorem unflushed_of_flush (requests : List Request) :
    unflushed (requests ++ [.flush none]) = [] := by
  rw [unflushed, List.rtakeWhile_concat_neg _ _ _ (by simp [Request.isWrite])]
  rfl

theorem unflushed_of_writes (h : ∀ r ∈ requests, r.isWrite = true) :
    unflushed requests = accepted requests := by
  rw [unflushed, List.rtakeWhile_eq_self_iff.mpr h]

/-- The writer without notes answers the calls in the same way. -/
theorem calls_answered (settings : Settings.Dumping) (elapsed : Nat) (l : Lexer) (w : Writer σ)
    (s : σ) : Answers w s (calls settings elapsed l w s)
      (run settings elapsed l (.start w s)).delivery.state := by
  obtain ⟨lines, ending, -, hasks, -, -⟩ :=
    run_asks settings elapsed l ((Delivery.start w s).noting [])
  have hcalls : calls settings elapsed l w s = lines ++ ending := hasks.answers.notes
  obtain ⟨past, hdelivery⟩ := (run_noting settings elapsed l (.start w s) []).delivery
  have hanswers := hasks.answers.unnoted
  rwa [hdelivery, ← hcalls] at hanswers

theorem Hands.isWrite {bytes : Bytes} {result : Except Fault Unit}
    (h : Hands bytes requests result) : ∀ r ∈ requests, r.isWrite = true := by
  cases h with
  | whole steady all => exact fun r hr => (steady r hr).1
  | refused split steady isWrite refusal part short =>
    rw [split]
    exact List.forall_mem_append.mpr
      ⟨fun r hr => (steady r hr).1, List.forall_mem_singleton.mpr isWrite⟩

/-- What a dump asks a willing writer for once its lines are written. -/
def closing : Option ReadError → List Request
  | none => [.flush none]
  | some _ => []

theorem calls_willing (hw : w.Willing) (settings : Settings.Dumping) (elapsed : Nat) (l : Lexer)
    (s : σ) : ∃ writes, calls settings elapsed l w s = writes ++ closing l.drain.2.1 ∧
      (∀ r ∈ writes, r.isWrite = true) ∧ accepted writes = script settings (proper l.drain.1) := by
  obtain ⟨writes, result, hasks, hhands, hends⟩ :=
    putLines_asks settings l ((Delivery.start w s).noting []) 0 0
  obtain ⟨rfl, haccepted⟩ := hw.noting.hands hasks.answers hhands
  refine ⟨writes, ?_, hhands.isWrite, haccepted⟩
  rw [calls, run]
  generalize putLines settings l ((Delivery.start w s).noting []) 0 0 = o at hasks hends ⊢
  obtain ⟨ended, last, e, notices⟩ := o
  generalize l.drain.2.1 = failure at hends ⊢
  cases hends with
  | unread error => exact hasks.answers.notes.trans (List.append_nil writes).symm
  | eof heof =>
    have hwilling : e.writer.Willing := hasks.writer ▸ hw.noting
    have hok := hwilling.flush_ok
    have hflush : e.Asks [.flush none] e.flush.2 := by
      rcases e.flush_asks with ⟨hflush, -⟩ | ⟨fault, -, hrefused⟩
      · exact hflush
      · cases hok.symm.trans hrefused
    have hnotes : e.flush.2.state.2 = writes ++ [.flush none] := (hasks.append hflush).answers.notes
    rw [finish]
    generalize e.flush = r at hok hnotes ⊢
    obtain ⟨flushed, e'⟩ := r
    obtain rfl : flushed = .ok ⟨⟩ := hok
    exact hnotes

/-- A dump to a willing writer writes all lines. Unless the source turns out to be unreadable, one
flush follows, and nothing is left that was taken and not flushed. If it does, there is no flush at
all, and all that was taken is left. -/
theorem run_flushed (hw : w.Willing) (settings : Settings.Dumping) (elapsed : Nat) (l : Lexer)
    (s : σ) :
    let o := run settings elapsed l (.start w s)
    let made := calls settings elapsed l w s
    let lines := script settings (proper l.drain.1)
    Answers w s made o.delivery.state ∧ accepted made = lines ∧
      ((∀ error, o.result ≠ .error (.unread error)) → unflushed made = [] ∧
        ∃ writes, made = writes ++ [.flush none] ∧ ∀ r ∈ writes, r.isWrite = true) ∧
      ∀ error, o.result = .error (.unread error) → unflushed made = lines ∧
        ∀ r ∈ made, r.isWrite = true := by
  intro o made lines
  have hverdict : o.result = verdict settings l.drain.1 l.drain.2.1 :=
    (hw.run (d := .start w s) settings elapsed l).2
  obtain ⟨writes, hmade, hwrites, haccepted⟩ := calls_willing hw settings elapsed l s
  refine ⟨calls_answered settings elapsed l w s, ?_⟩
  simp only [made, hmade, hverdict]
  cases l.drain.2.1 with
  | none =>
    refine ⟨?_, fun _ => ⟨unflushed_of_flush writes, writes, rfl, hwrites⟩, fun error h => ?_⟩
    · rw [accepted_append, haccepted]
      exact List.append_nil lines
    · rw [verdict] at h
      split at h <;> cases h
  | some error =>
    rw [closing, List.append_nil]
    exact ⟨haccepted, fun h => absurd rfl (h _),
      fun _ _ => ⟨(unflushed_of_writes hwrites).trans haccepted, hwrites⟩⟩

/-- Two lines, flushed into memory. -/
theorem run_flushed_memory : Writer.memory.Willing ∧
    unflushed (calls ⟨.text, false, false⟩ 0 (ofText "x y" ⟨.strict, true, true⟩) .memory ⟨⟩) =
      [] := by
  obtain ⟨-, -, hread, -⟩ := run_flushed willing_memory ⟨.text, false, false⟩ 0
    (ofText "x y" ⟨.strict, true, true⟩) ⟨⟩
  refine ⟨willing_memory, (hread fun error h => ?_).1⟩
  have hresult := toMemory_result ⟨.text, false, false⟩ 0 (ofText "x y" ⟨.strict, true, true⟩)
  have hok : verdict ⟨.text, false, false⟩ (ofText "x y" ⟨.strict, true, true⟩).drain.1
      (ofText "x y" ⟨.strict, true, true⟩).drain.2.1 = .ok ⟨2, 0, 1⟩ := by decide +kernel
  rw [hok] at hresult
  cases hresult.symm.trans h

/-- A source that turns out to be no text behind its second token leaves a line unflushed. -/
theorem exists_unflushed :
    let feed : Feed := [.bytes (Utf8.encode "x y ".toList), .bytes [0xFE],
      .bytes (Utf8.encode " z".toList)]
    Writer.memory.Willing ∧ ∃ l, ofFeed feed ⟨.strict, true, true⟩ = (.ok l, []) ∧
      (toMemory ⟨.text, false, false⟩ 0 l).result =
        .error (.unread (.unread ⟨⟨4, 1, 5⟩, Feed.badLead 0xFE⟩)) ∧
      unflushed (calls ⟨.text, false, false⟩ 0 l .memory ⟨⟩) =
        Utf8.encode "Type: IDENTIFIER | Literal: x\n".toList := by
  intro feed
  let c : Cursor := ⟨[.char 'y', .char ' ', .fault (Feed.badLead 0xFE), .char ' ', .char 'z'],
    some 'x', some ' ', .start, false⟩
  let l := ofCursor c ⟨.strict, true, true⟩
  have hfeed : ofFeed feed ⟨.strict, true, true⟩ = (.ok l, []) := by decide +kernel
  have hfailure : l.drain.2.1 = some ⟨⟨4, 1, 5⟩, Feed.badLead 0xFE⟩ := by decide +kernel
  have hscript : script ⟨.text, false, false⟩ (proper l.drain.1) =
      Utf8.encode "Type: IDENTIFIER | Literal: x\n".toList := by decide +kernel
  obtain ⟨writes, hcalls, hwrites, haccepted⟩ :=
    calls_willing willing_memory ⟨.text, false, false⟩ 0 l ⟨⟩
  refine ⟨willing_memory, l, hfeed, by rw [toMemory_result, hfailure, verdict], ?_⟩
  rw [hcalls, hfailure, closing, List.append_nil, unflushed_of_writes hwrites, haccepted, hscript]

end TokenDump.Dump
