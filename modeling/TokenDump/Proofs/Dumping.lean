import TokenDump.Proofs.Calls
import TokenDump.Proofs.Requests
import TokenDump.Dump.Basic

/-! # Dumps to any writer

A dump asks the writer to take the lines of the tokens, and to flush once all lines are taken. Its
result says how far that went: to the end, to an error of the scan, or to a refusal of the writer. -/
namespace TokenDump.Dump

open Lexer

/-- The line of a token with the separator behind it. -/
def lineBytes (settings : Settings.Dumping) (t : Located Token) : Bytes :=
  Utf8.encode (line t settings).toList ++ Utf8.encode separator.toList

/-- The lines of the tokens. -/
def script (settings : Settings.Dumping) (ts : List (Located Token)) : Bytes :=
  ts.flatMap (lineBytes settings)

def illegals (ts : List (Located Token)) : Nat := ts.countP (·.value.isIllegal)

/-- How the delivery of all lines ends, with `n` tokens and `k` illegal ones delivered before,
where a lexer still gives these tokens, the end token last, or stops with an error. -/
inductive Ends (n k : Nat) :
    List (Located Token) → Option ReadError → Except DumpError Summary → Prop
  | unread {ts : List (Located Token)} (error : ReadError) :
      Ends n k ts (some error) (.error (.unread (.unread error)))
  | eof {ts : List (Located Token)} {eof : Located Token} (last : ts = proper ts ++ [eof]) :
      Ends n k ts none
        (.ok ⟨n + (proper ts).length, k + illegals (proper ts), eof.span.stop.line⟩)

/-- The scan has come to its end, all lines were taken, and then the writer was flushed. -/
structure Complete (settings : Settings.Dumping) (ts : List (Located Token))
    (failure : Option ReadError) (requests : List Request) (eof : Located Token) : Prop where
  noFailure : failure = none
  last : ts = proper ts ++ [eof]
  flushed : ∃ writes, requests = writes ++ [.flush none] ∧
    (∀ r ∈ writes, r.isWrite = true) ∧ accepted writes = script settings (proper ts)

/-- What the result of a dump says about the requests, where the lexer gives these tokens, the end
token last, or stops with an error. -/
structure Accounts (settings : Settings.Dumping) (ts : List (Located Token))
    (failure : Option ReadError) (requests : List Request) (result : Except DumpError Summary) :
    Prop where
  taken : accepted requests <+: script settings (proper ts)
  /-- Only the last request is refused, and only the last one is to flush. -/
  steady : ∀ r ∈ requests.dropLast, r.isWrite = true ∧ r.refusal = none
  complete : ∀ summary, result = .ok summary ↔ ∃ eof, Complete settings ts failure requests eof ∧
    summary = ⟨(proper ts).length, illegals (proper ts), eof.span.stop.line⟩ ∧
    ¬ (settings.failOnIllegal = true ∧ 0 < illegals (proper ts))
  illegal : ∀ count, result = .error (.illegalTokens count) ↔
    (∃ eof, Complete settings ts failure requests eof) ∧ count = illegals (proper ts) ∧
    settings.failOnIllegal = true ∧ 0 < illegals (proper ts)
  unread : ∀ error, result = .error (.unread error) ↔
    ∃ e, failure = some e ∧ error = .unread e ∧ accepted requests = script settings (proper ts)
  unwritten : ∀ fault, result = .error (.unwritten fault) ↔
    requests.getLast?.bind Request.refusal = some fault
  /-- There are no other results. -/
  exhaustive : (∃ summary, result = .ok summary) ∨ (∃ count, result = .error (.illegalTokens count)) ∨
    (∃ error, result = .error (.unread error)) ∨ ∃ fault, result = .error (.unwritten fault)

variable {σ : Type} {settings : Settings.Dumping} {l : Lexer} {d e : Delivery σ} {t : Located Token}
  {ts : List (Located Token)} {n k : Nat} {fault : Fault}

theorem putLine_asks (settings : Settings.Dumping) (t : Located Token) (d : Delivery σ) :
    ∃ requests, d.Asks requests (putLine settings t d).2 ∧
      Hands (lineBytes settings t) requests (putLine settings t d).1 := by
  obtain ⟨requests, hasks, hhands⟩ := d.put_asks (Utf8.encode (line t settings).toList)
  rw [putLine]
  generalize d.put (Utf8.encode (line t settings).toList) = r at hasks hhands ⊢
  obtain ⟨result, d'⟩ := r
  cases result with
  | error fault => exact ⟨requests, hasks, hhands.stop _⟩
  | ok u =>
    obtain ⟨more, hasks', hhands'⟩ := d'.put_asks (Utf8.encode separator.toList)
    exact ⟨requests ++ more, hasks.append hasks', hhands.append hhands'⟩

theorem putLines_of_error {error : ReadError} (h : l.next.result = .error error) :
    putLines settings l d n k =
      ⟨.error (.unread (.unread error)), l.next.lexer, d, l.next.notices⟩ := by
  rw [putLines]
  split
  · rename_i e he
    obtain rfl : error = e := by simpa [h] using he
    rfl
  · rename_i u hu
    simp [h] at hu

theorem putLines_of_eof (h : l.next.result = .ok t) (ht : t.value.isEof = true) :
    putLines settings l d n k =
      ⟨.ok ⟨n, k, t.span.stop.line⟩, l.next.lexer, d, l.next.notices⟩ := by
  rw [putLines]
  split
  · rename_i e he
    simp [h] at he
  · rename_i u hu
    obtain rfl : t = u := by simpa [h] using hu
    simp [ht]

theorem putLines_of_ok (h : l.next.result = .ok t) (ht : t.value.isEof = false) :
    putLines settings l d n k = match putLine settings t d with
      | (.error fault, d) => ⟨.error (.unwritten fault), l.next.lexer, d,
          l.next.notices ++ [tokenNotice t] ++ [writeNotice fault]⟩
      | (.ok _, d) =>
        let rest := putLines settings l.next.lexer d (n + 1)
          (if t.value.isIllegal then k + 1 else k)
        { rest with notices := l.next.notices ++ [tokenNotice t] ++ rest.notices } := by
  rw [putLines]
  split
  · rename_i e he
    simp [h] at he
  · rename_i u hu
    obtain rfl : t = u := by simpa [h] using hu
    refine (dif_neg (by simp [ht])).trans ?_
    rfl

theorem Ends.cons {failure : Option ReadError} {result : Except DumpError Summary}
    (ht : t.value.isEof = false)
    (h : Ends (n + 1) (if t.value.isIllegal then k + 1 else k) ts failure result) :
    Ends n k (t :: ts) failure result := by
  cases h with
  | unread error => exact .unread error
  | @eof eof last =>
    have hn : n + 1 + (proper ts).length = n + (proper (t :: ts)).length := by
      rw [proper_cons ht, List.length_cons]
      omega
    have hk : (if t.value.isIllegal then k + 1 else k) + illegals (proper ts) =
        k + illegals (proper (t :: ts)) := by
      rw [proper_cons ht, illegals, illegals, List.countP_cons]
      split <;> omega
    rw [hn, hk]
    refine .eof ?_
    rw [proper_cons ht, List.cons_append, ← last]

/-- The lines of the tokens are handed over one after the other, as far as the writer takes them. -/
theorem putLines_asks (settings : Settings.Dumping) (l : Lexer) (d : Delivery σ) (n k : Nat) :
    ∃ requests result, d.Asks requests (putLines settings l d n k).delivery ∧
      Hands (script settings (proper l.drain.1)) requests result ∧
      match result with
      | .ok _ => Ends n k l.drain.1 l.drain.2.1 (putLines settings l d n k).result
      | .error fault => (putLines settings l d n k).result = .error (.unwritten fault) := by
  induction l using Lexer.drain.induct generalizing d n k with
  | case1 l error h =>
    rw [putLines_of_error h, drain_of_error h]
    exact ⟨[], .ok ⟨⟩, d.asks_nothing, .whole (by simp) rfl, .unread error⟩
  | case2 l t h ht =>
    rw [putLines_of_eof h ht, drain_of_eof h ht]
    refine ⟨[], .ok ⟨⟩, d.asks_nothing, ?_, ?_⟩
    · rw [proper_eof ht]
      exact .whole (by simp) rfl
    · have hends : Ends n k [t] none _ := .eof (by rw [proper_eof ht]; rfl)
      simpa [proper_eof ht, illegals] using hends
  | case3 l t h ht _ _ _ _ _ ih =>
    rw [Bool.not_eq_true] at ht
    obtain ⟨requests, hasks, hhands⟩ := putLine_asks settings t d
    have hscript : script settings (proper (t :: l.next.lexer.drain.1)) =
        lineBytes settings t ++ script settings (proper l.next.lexer.drain.1) := by
      rw [proper_cons ht]
      rfl
    rw [putLines_of_ok h ht, drain_of_ok h ht, hscript]
    generalize putLine settings t d = r at hasks hhands ⊢
    obtain ⟨result, d'⟩ := r
    cases result with
    | error fault => exact ⟨requests, .error fault, hasks, hhands.stop _, rfl⟩
    | ok u =>
      obtain ⟨more, result, hasks', hhands', hends⟩ :=
        ih d' (n + 1) (if t.value.isIllegal then k + 1 else k)
      refine ⟨requests ++ more, result, hasks.append hasks', hhands.append hhands', ?_⟩
      cases result with
      | error fault => exact hends
      | ok u => exact hends.cons ht

theorem not_complete {requests : List Request} {failure : Option ReadError} {last : Request}
    (h : last ≠ .flush none) (eof : Located Token) :
    ¬ Complete settings ts failure (requests ++ [last]) eof := by
  rintro ⟨-, -, writes, hsplit, -⟩
  exact h (List.append_singleton_inj.mp hsplit).2

theorem getLast?_refusal {requests : List Request} (h : ∀ r ∈ requests, r.refusal = none) :
    requests.getLast?.bind Request.refusal = none := by
  cases hr : requests.getLast? with
  | none => rfl
  | some r => exact h r (List.mem_of_getLast? hr)

/-- The writer has refused a line. -/
theorem accounts_refused {requests : List Request} (failure : Option ReadError)
    (h : Hands (script settings (proper ts)) requests (.error fault)) :
    Accounts settings ts failure requests (.error (.unwritten fault)) := by
  cases h with
  | @refused fault earlier last split steady isWrite refusal part short =>
    subst split
    have hlast : last ≠ .flush none := by
      rintro rfl
      simp [Request.isWrite] at isWrite
    refine ⟨part, by simpa using steady, ?_, ?_, ?_, ?_, .inr (.inr (.inr ⟨fault, rfl⟩))⟩
    · simp [not_complete hlast]
    · simp [not_complete hlast]
    · have hne : accepted (earlier ++ [last]) ≠ script settings (proper ts) := by
        intro he
        rw [he] at short
        exact Nat.lt_irrefl _ short
      simp [hne]
    · simp [refusal]

/-- All lines were taken, but the scan has stopped with an error. -/
theorem accounts_unread {requests : List Request} (error : ReadError)
    (h : Hands (script settings (proper ts)) requests (.ok ⟨⟩)) :
    Accounts settings ts (some error) requests (.error (.unread (.unread error))) := by
  cases h with
  | whole steady all =>
    have hno : ∀ eof, ¬ Complete settings ts (some error) requests eof :=
      fun eof h => by simpa using h.noFailure
    have hrefusal := getLast?_refusal fun r hr => (steady r hr).2
    refine ⟨all ▸ List.prefix_rfl, fun r hr => steady r (List.dropLast_subset _ hr), ?_, ?_, ?_,
      ?_, .inr (.inr (.inl ⟨_, rfl⟩))⟩
    · simp [hno]
    · simp [hno]
    · simp [all, eq_comm]
    · simp [hrefusal]

/-- All lines were taken, but the writer has refused to flush. -/
theorem accounts_unflushed {requests : List Request}
    (h : Hands (script settings (proper ts)) requests (.ok ⟨⟩)) :
    Accounts settings ts none (requests ++ [.flush (some fault)]) (.error (.unwritten fault)) := by
  cases h with
  | whole steady all =>
    have hlast : Request.flush (some fault) ≠ .flush none := by simp
    have haccepted : accepted (requests ++ [.flush (some fault)]) = script settings (proper ts) := by
      rw [accepted_append, all]
      exact List.append_nil _
    refine ⟨haccepted ▸ List.prefix_rfl, by simpa using steady, ?_, ?_, ?_, ?_,
      .inr (.inr (.inr ⟨fault, rfl⟩))⟩
    · simp [not_complete hlast]
    · simp [not_complete hlast]
    · simp
    · simp [Request.refusal]

/-- All lines were taken and the writer was flushed, so only illegal tokens are left to judge. -/
theorem accounts_complete {requests : List Request} {eof : Located Token}
    (h : Hands (script settings (proper ts)) requests (.ok ⟨⟩)) (last : ts = proper ts ++ [eof]) :
    Accounts settings ts none (requests ++ [.flush none])
      (if settings.failOnIllegal && 0 < illegals (proper ts) then
        .error (.illegalTokens (illegals (proper ts)))
      else .ok ⟨(proper ts).length, illegals (proper ts), eof.span.stop.line⟩) := by
  cases h with
  | whole steady all =>
    have haccepted : accepted (requests ++ [.flush none]) = script settings (proper ts) := by
      rw [accepted_append, all]
      exact List.append_nil _
    have hcomplete : Complete settings ts none (requests ++ [.flush none]) eof :=
      ⟨rfl, last, requests, rfl, fun r hr => (steady r hr).1, all⟩
    have hunique : ∀ eof', Complete settings ts none (requests ++ [.flush none]) eof' →
        eof' = eof := by
      rintro eof' ⟨-, last', -⟩
      exact (List.append_singleton_inj.mp (last'.symm.trans last)).2
    have hexists : ∃ eof', Complete settings ts none (requests ++ [.flush none]) eof' :=
      ⟨eof, hcomplete⟩
    have htaken : accepted (requests ++ [.flush none]) <+: script settings (proper ts) :=
      haccepted ▸ List.prefix_rfl
    by_cases hbad : settings.failOnIllegal = true ∧ 0 < illegals (proper ts)
    · rw [if_pos (by simpa using hbad)]
      refine ⟨htaken, by simpa using steady, ?_, ?_, ?_, ?_, .inr (.inl ⟨_, rfl⟩)⟩
      · simp [hbad]
      · simp [hbad, hexists, eq_comm]
      · simp
      · simp [Request.refusal]
    · rw [if_neg (by simpa using hbad)]
      refine ⟨htaken, by simpa using steady, fun summary => ⟨?_, ?_⟩, ?_, ?_, ?_, .inl ⟨_, rfl⟩⟩
      · intro h
        exact ⟨eof, hcomplete, (Except.ok.inj h).symm, hbad⟩
      · rintro ⟨eof', h, rfl, -⟩
        rw [hunique eof' h]
      · simp [hbad]
      · simp
      · simp [Request.refusal]

/-- A dump asks the writer for what its result accounts for, whatever the lexer still gives and
whatever the writer answers. -/
theorem run_accounts (settings : Settings.Dumping) (elapsed : Nat) (l : Lexer) (d : Delivery σ) :
    ∃ requests, d.Asks requests (run settings elapsed l d).delivery ∧
      Accounts settings l.drain.1 l.drain.2.1 requests (run settings elapsed l d).result := by
  obtain ⟨requests, result, hasks, hhands, hends⟩ := putLines_asks settings l d 0 0
  simp only [run]
  generalize putLines settings l d 0 0 = o at hasks hends ⊢
  obtain ⟨outcome, last, e, notices⟩ := o
  cases result with
  | error fault =>
    obtain rfl : outcome = .error (.unwritten fault) := hends
    exact ⟨requests, hasks, accounts_refused _ hhands⟩
  | ok u =>
    generalize l.drain.2.1 = failure at hends ⊢
    cases hends with
    | unread error => exact ⟨requests, hasks, accounts_unread error hhands⟩
    | @eof eof heof =>
      rw [Nat.zero_add, Nat.zero_add, finish]
      have hflush := e.flush_asks
      generalize e.flush = r at hflush ⊢
      obtain ⟨flushed, e'⟩ := r
      rcases hflush with ⟨hask, rfl⟩ | ⟨fault, hask, rfl⟩
      · exact ⟨_, hasks.append hask, accounts_complete hhands heof⟩
      · exact ⟨_, hasks.append hask, accounts_unflushed hhands⟩

theorem finish_delivery (settings : Settings.Dumping) (elapsed : Nat) (o : Outcome σ) :
    (finish settings elapsed o).delivery = o.delivery ∨
      (finish settings elapsed o).delivery = o.delivery.flush.2 := by
  rw [finish]
  cases o.result with
  | error error => exact .inl rfl
  | ok summary =>
    right
    simp only
    generalize o.delivery.flush = r
    obtain ⟨flushed, d⟩ := r
    cases flushed <;> rfl

/-- A dump asks the writer to take its lines, and then to flush or nothing more. -/
theorem run_asks (settings : Settings.Dumping) (elapsed : Nat) (l : Lexer) (d : Delivery σ) :
    ∃ lines last result, d.Asks (lines ++ last) (run settings elapsed l d).delivery ∧
      Hands (script settings (proper l.drain.1)) lines result ∧
      (last = [] ∨ ∃ fault, last = [.flush fault]) := by
  obtain ⟨lines, result, hasks, hhands, -⟩ := putLines_asks settings l d 0 0
  have hrun : (run settings elapsed l d).delivery =
      (finish settings elapsed (putLines settings l d 0 0)).delivery := rfl
  rcases finish_delivery settings elapsed (putLines settings l d 0 0) with h | h
  · exact ⟨lines, [], result, by rwa [hrun, h, List.append_nil], hhands, .inl rfl⟩
  · have hflush : ∃ fault, (putLines settings l d 0 0).delivery.Asks [.flush fault]
        (putLines settings l d 0 0).delivery.flush.2 := by
      obtain ⟨hask, -⟩ | ⟨fault, hask, -⟩ := (putLines settings l d 0 0).delivery.flush_asks
      · exact ⟨none, hask⟩
      · exact ⟨some fault, hask⟩
    obtain ⟨fault, hask⟩ := hflush
    exact ⟨lines, [.flush fault], result, by rw [hrun, h]; exact hasks.append hask, hhands,
      .inr ⟨fault, rfl⟩⟩

end TokenDump.Dump
