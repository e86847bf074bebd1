import TokenDump.Proofs.Dumping
import TokenDump.Dump.Buffered

/-! # Dumps to willing writers

A writer that never refuses gets the lines of all tokens that the lexer still gives, and the result
of the dump depends on the lexer alone. Memory is such a writer, and so is the buffer in front of a
file. -/
namespace TokenDump.Dump

open Lexer

variable {σ : Type}

/-- A writer that takes something of every chunk, or asks to be called again, and that can always be
flushed. -/
structure Writer.Willing (w : Writer σ) : Prop where
  write : ∀ s chunk, chunk ≠ [] → (Request.write chunk (w.write s chunk).1).refusal = none
  flush : ∀ s, (w.flush s).1 = none

/-- The result of a dump that no writer has refused, where the lexer gives these tokens, the end
token last, or stops with an error. -/
def verdict (settings : Settings.Dumping) (ts : List (Located Token)) :
    Option ReadError → Except DumpError Summary
  | some error => .error (.unread (.unread error))
  | none =>
    if settings.failOnIllegal && 0 < illegals (proper ts) then
      .error (.illegalTokens (illegals (proper ts)))
    else
      .ok ⟨(proper ts).length, illegals (proper ts), ts.getLast?.elim 0 (·.span.stop.line)⟩

variable {w : Writer σ} {s s' : σ} {d : Delivery σ} {requests : List Request} {bytes : Bytes}
  {result : Except Fault Unit} {settings : Settings.Dumping} {ts : List (Located Token)}

theorem willing_memory : Writer.memory.Willing := by
  refine ⟨fun s chunk h => ?_, fun s => rfl⟩
  obtain ⟨b, rest, rfl⟩ := List.exists_cons_of_ne_nil h
  rfl

theorem willing_file : Writer.file.Willing := by
  refine ⟨fun s chunk h => ?_, fun s => rfl⟩
  obtain ⟨b, rest, rfl⟩ := List.exists_cons_of_ne_nil h
  rfl

theorem Writer.Willing.refusal (hw : w.Willing) (h : Answers w s requests s') :
    ∀ r ∈ requests, r.refusal = none := by
  induction h with
  | nothing => simp
  | write nonempty more ih => exact List.forall_mem_cons.mpr ⟨hw.write _ _ nonempty, ih⟩
  | flush more ih => exact List.forall_mem_cons.mpr ⟨hw.flush _, ih⟩

/-- A willing writer takes all that is handed to it. -/
theorem Writer.Willing.hands (hw : w.Willing) (ha : Answers w s requests s')
    (h : Hands bytes requests result) : result = .ok ⟨⟩ ∧ accepted requests = bytes := by
  cases h with
  | whole steady all => exact ⟨rfl, all⟩
  | refused split steady isWrite refusal part short =>
    have hnone := hw.refusal ha _ (split ▸ List.mem_append_right _ List.mem_cons_self)
    simp [hnone] at refusal

theorem Writer.Willing.putLines (hw : d.writer.Willing) (settings : Settings.Dumping) (l : Lexer)
    (n k : Nat) :
    (putLines settings l d n k).delivery.writer = d.writer ∧
      (putLines settings l d n k).delivery.taken = d.taken ++ script settings (proper l.drain.1) ∧
      Ends n k l.drain.1 l.drain.2.1 (putLines settings l d n k).result := by
  obtain ⟨requests, result, hasks, hhands, hends⟩ := putLines_asks settings l d n k
  obtain ⟨rfl, hall⟩ := hw.hands hasks.answers hhands
  exact ⟨hasks.writer, by rw [hasks.taken, hall], hends⟩

theorem Writer.Willing.flush_ok (hw : d.writer.Willing) : d.flush.1 = .ok ⟨⟩ := by
  have hflush := hw.flush d.state
  rw [Delivery.flush]
  generalize d.writer.flush d.state = r at hflush ⊢
  obtain ⟨fault, state⟩ := r
  obtain rfl : fault = none := hflush
  rfl

theorem getLast?_elim {α : Type} {eof : Located Token} (h : ts = proper ts ++ [eof]) (a : α)
    (f : Located Token → α) : ts.getLast?.elim a f = f eof := by
  rw [h, List.getLast?_append]
  rfl

/-- Once all lines were taken, only a refusal to flush keeps the dump from its verdict. -/
theorem finish_of_ends (settings : Settings.Dumping) (elapsed : Nat) {failure : Option ReadError}
    {o : Outcome σ} (h : Ends 0 0 ts failure o.result) :
    ((finish settings elapsed o).result = verdict settings ts failure ∧
      (finish settings elapsed o).delivery.taken = o.delivery.taken) ∨
    ∃ fault, o.delivery.flush.1 = .error fault ∧
      (finish settings elapsed o).result = .error (.unwritten fault) := by
  obtain ⟨outcome, last, e, notices⟩ := o
  cases h with
  | unread error => exact .inl ⟨rfl, rfl⟩
  | @eof eof heof =>
    rw [Nat.zero_add, Nat.zero_add, finish]
    rcases e.flush_asks with ⟨hflush, hok⟩ | ⟨fault, hflush, hrefused⟩
    · left
      have htaken : e.flush.2.taken = e.taken ++ [] := hflush.taken
      rw [List.append_nil] at htaken
      generalize e.flush = r at hok htaken ⊢
      obtain ⟨flushed, e'⟩ := r
      obtain rfl : flushed = .ok ⟨⟩ := hok
      exact ⟨by simp only [verdict, getLast?_elim heof], htaken⟩
    · refine .inr ⟨fault, hrefused, ?_⟩
      generalize e.flush = r at hrefused ⊢
      obtain ⟨flushed, e'⟩ := r
      obtain rfl : flushed = .error fault := hrefused
      rfl

/-- A dump to a willing writer hands over the lines of all tokens, and says how the scan has
ended. -/
theorem Writer.Willing.run (hw : d.writer.Willing) (settings : Settings.Dumping) (elapsed : Nat)
    (l : Lexer) :
    (run settings elapsed l d).delivery.taken = d.taken ++ script settings (proper l.drain.1) ∧
      (run settings elapsed l d).result = verdict settings l.drain.1 l.drain.2.1 := by
  obtain ⟨hwriter, htaken, hends⟩ := hw.putLines settings l 0 0
  rcases finish_of_ends settings elapsed hends with ⟨hresult, hsame⟩ | ⟨fault, h, -⟩
  · exact ⟨hsame.trans htaken, hresult⟩
  · have hwilling : (Dump.putLines settings l d 0 0).delivery.writer.Willing := hwriter ▸ hw
    rw [hwilling.flush_ok] at h
    cases h

theorem taken_start (w : Writer σ) (s : σ) : (Delivery.start w s).taken = [] := rfl

theorem toMemory_taken (settings : Settings.Dumping) (elapsed : Nat) (l : Lexer) :
    (toMemory settings elapsed l).delivery.taken = script settings (proper l.drain.1) :=
  (willing_memory.run (d := .start .memory ⟨⟩) settings elapsed l).1

theorem toMemory_result (settings : Settings.Dumping) (elapsed : Nat) (l : Lexer) :
    (toMemory settings elapsed l).result = verdict settings l.drain.1 l.drain.2.1 :=
  (willing_memory.run (d := .start .memory ⟨⟩) settings elapsed l).2

variable {p p' : FileProgress}

/-- Bytes that a file has been given, whether they are stored yet or not. -/
def FileProgress.held (p : FileProgress) : Nat := p.stored + p.collected

theorem FileProgress.held_take (p : FileProgress) (count : Nat) :
    (p.take count).held = p.held + count := by
  simp only [take, store, held]
  split <;> split <;> simp only <;> omega

theorem held_answers (h : Answers Writer.file p requests p') :
    p'.held = p.held + (accepted requests).length := by
  induction h with
  | nothing => rfl
  | @write p last chunk requests nonempty more ih =>
    have haccepted : (Request.write chunk (Writer.file.write p chunk).1).accepted = chunk :=
      List.take_length
    have hheld : (Writer.file.write p chunk).2.held = p.held + chunk.length :=
      p.held_take chunk.length
    rw [ih, hheld, accepted_cons, haccepted, List.length_append, Nat.add_assoc]
  | flush more ih => exact ih

/-- What a dump has delivered to a file is stored there, but for what is still collected. -/
theorem held_run (settings : Settings.Dumping) (elapsed : Nat) (l : Lexer) :
    let d := (run settings elapsed l (.start .file .start)).delivery
    d.state.held = d.taken.length := by
  obtain ⟨lines, last, -, hasks, -⟩ := run_asks settings elapsed l (.start .file .start)
  have hheld := held_answers hasks.answers
  have htaken := hasks.taken
  rw [taken_start, List.nil_append] at htaken
  simp only [htaken, hheld]
  exact Nat.zero_add _

/-- A dump through the buffer in front of a file is the dump into memory. -/
theorem run_buffered (settings : Settings.Dumping) (elapsed : Nat) (l : Lexer) :
    let o := run settings elapsed l (.start .file .start)
    o.result = (toMemory settings elapsed l).result ∧
      o.delivery.taken = (toMemory settings elapsed l).delivery.taken ∧
      o.delivery.state.store.stored = o.delivery.taken.length := by
  obtain ⟨htaken, hresult⟩ := willing_file.run (d := .start .file .start) settings elapsed l
  rw [toMemory_result, toMemory_taken]
  exact ⟨hresult, htaken, held_run settings elapsed l⟩

end TokenDump.Dump
