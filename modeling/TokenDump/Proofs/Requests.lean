import Mathlib.Data.List.Basic
import TokenDump.Dump.Writer

/-! # Requests

A writer is asked to take chunks and to flush. A chunk that is handed over leads to requests until
all of it is taken or the writer refuses, and what is taken is the front of the chunk. -/
namespace TokenDump.Dump

/-- A call of a writer, with its answer. -/
inductive Request where
  | write (chunk : Bytes) (answer : Answer)
  | flush (fault : Option Fault)

namespace Request

def isWrite : Request → Bool
  | write _ _ => true
  | flush _ => false

/-- The bytes that the writer takes. -/
def accepted : Request → Bytes
  | write chunk (.took n) => chunk.take n
  | _ => []

/-- The fault that an answer comes down to, if nothing more is to be asked. -/
def refusal : Request → Option Fault
  | write _ (.took 0) => some .writeZero
  | write _ (.failed cause) => some cause
  | flush fault => fault
  | _ => none

end Request

def accepted (requests : List Request) : Bytes := requests.flatMap Request.accepted

variable {σ : Type}

/-- The writer goes through the requests one after the other, from one state to another. -/
inductive Answers (w : Writer σ) : σ → List Request → σ → Prop
  | nothing {s : σ} : Answers w s [] s
  | write {s last : σ} {chunk : Bytes} {requests : List Request} (nonempty : chunk ≠ [])
      (more : Answers w (w.write s chunk).2 requests last) :
      Answers w s (.write chunk (w.write s chunk).1 :: requests) last
  | flush {s last : σ} {requests : List Request} (more : Answers w (w.flush s).2 requests last) :
      Answers w s (.flush (w.flush s).1 :: requests) last

/-- The requests that lead from one delivery to another. -/
structure Delivery.Asks (d : Delivery σ) (requests : List Request) (e : Delivery σ) : Prop where
  writer : e.writer = d.writer
  answers : Answers d.writer d.state requests e.state
  taken : e.taken = d.taken ++ accepted requests
  flushes : e.flushes = d.flushes + requests.countP (!·.isWrite)

/-- Handing over the bytes leads to these requests: all bytes are taken, or the last request is
refused before they are. -/
inductive Hands (bytes : Bytes) (requests : List Request) : Except Fault Unit → Prop
  | whole (steady : ∀ r ∈ requests, r.isWrite = true ∧ r.refusal = none)
      (all : accepted requests = bytes) : Hands bytes requests (.ok ⟨⟩)
  | refused {fault : Fault} {earlier : List Request} {last : Request}
      (split : requests = earlier ++ [last])
      (steady : ∀ r ∈ earlier, r.isWrite = true ∧ r.refusal = none) (isWrite : last.isWrite = true)
      (refusal : last.refusal = some fault) (part : accepted requests <+: bytes)
      (short : (accepted requests).length < bytes.length) : Hands bytes requests (.error fault)

variable {d e f : Delivery σ} {w : Writer σ} {s s' s'' : σ} {requests more : List Request}
  {bytes rest chunk : Bytes} {request : Request} {fault : Fault} {result : Except Fault Unit}

theorem accepted_append (requests more : List Request) :
    accepted (requests ++ more) = accepted requests ++ accepted more := List.flatMap_append

theorem accepted_cons (request : Request) (requests : List Request) :
    accepted (request :: requests) = request.accepted ++ accepted requests := rfl

theorem Answers.append (h : Answers w s requests s') (h' : Answers w s' more s'') :
    Answers w s (requests ++ more) s'' := by
  induction h with
  | nothing => exact h'
  | write nonempty _ ih => exact .write nonempty (ih h')
  | flush _ ih => exact .flush (ih h')

theorem Delivery.asks_nothing (d : Delivery σ) : d.Asks [] d :=
  ⟨rfl, .nothing, (List.append_nil _).symm, rfl⟩

theorem Delivery.Asks.append (h : d.Asks requests e) (h' : e.Asks more f) :
    d.Asks (requests ++ more) f := by
  refine ⟨h'.writer.trans h.writer, h.answers.append (h.writer ▸ h'.answers), ?_, ?_⟩
  · rw [h'.taken, h.taken, accepted_append, List.append_assoc]
  · rw [h'.flushes, h.flushes, List.countP_append, Nat.add_assoc]

theorem Delivery.asks_write {answer : Answer} {state : σ}
    (hw : d.writer.write d.state chunk = (answer, state)) (h : chunk ≠ []) :
    d.Asks [.write chunk answer]
      { d with state, received := d.received ++ (Request.write chunk answer).accepted } := by
  have hanswers : Answers d.writer d.state [.write chunk (d.writer.write d.state chunk).1] _ :=
    .write h .nothing
  rw [hw] at hanswers
  exact ⟨rfl, hanswers, by simp [taken, accepted], rfl⟩

theorem Delivery.asks_write_nothing {answer : Answer} {state : σ}
    (hw : d.writer.write d.state chunk = (answer, state)) (h : chunk ≠ [])
    (ha : (Request.write chunk answer).accepted = []) :
    d.Asks [.write chunk answer] { d with state } := by
  simpa [ha] using asks_write hw h

theorem Delivery.flush_asks (d : Delivery σ) :
    (d.Asks [.flush none] d.flush.2 ∧ d.flush.1 = .ok ⟨⟩) ∨
      ∃ fault, d.Asks [.flush (some fault)] d.flush.2 ∧ d.flush.1 = .error fault := by
  have hanswers : Answers d.writer d.state [.flush (d.writer.flush d.state).1] _ := .flush .nothing
  rw [flush]
  generalize d.writer.flush d.state = r at hanswers ⊢
  obtain ⟨fault, state⟩ := r
  cases fault with
  | none => exact .inl ⟨⟨rfl, hanswers, (List.append_nil _).symm, rfl⟩, rfl⟩
  | some fault => exact .inr ⟨fault, ⟨rfl, hanswers, (List.append_nil _).symm, rfl⟩, rfl⟩

theorem Hands.cons (hw : request.isWrite = true) (hr : request.refusal = none)
    (h : Hands bytes requests result) :
    Hands (request.accepted ++ bytes) (request :: requests) result := by
  cases h with
  | whole steady all =>
    refine .whole ?_ (by rw [accepted_cons, all])
    simpa using ⟨⟨hw, hr⟩, steady⟩
  | @refused fault earlier last split steady isWrite refusal part short =>
    have hsplit : request :: requests = (request :: earlier) ++ [last] := by rw [split]; rfl
    refine .refused hsplit ?_ isWrite refusal ?_ ?_
    · simpa using ⟨⟨hw, hr⟩, steady⟩
    · rw [accepted_cons]
      exact (List.prefix_append_right_inj _).mpr part
    · rw [accepted_cons, List.length_append, List.length_append]
      omega

theorem hands_refused (hw : request.isWrite = true) (hr : request.refusal = some fault)
    (ha : request.accepted = []) (hb : bytes ≠ []) : Hands bytes [request] (.error fault) := by
  have hnone : accepted [request] = [] := by simp [accepted, ha]
  have hsplit : [request] = [] ++ [request] := rfl
  refine .refused hsplit (by simp) hw hr ?_ ?_
  · rw [hnone]
    exact List.nil_prefix
  · rw [hnone]
    exact List.length_pos_iff.mpr hb

theorem Hands.append (h : Hands bytes requests (.ok ⟨⟩)) (h' : Hands rest more result) :
    Hands (bytes ++ rest) (requests ++ more) result := by
  cases h with
  | whole steady all =>
    subst all
    induction requests with
    | nil => exact h'
    | cons request requests ih =>
      have hfirst := steady request List.mem_cons_self
      rw [accepted_cons, List.append_assoc]
      exact (ih fun r hr => steady r (List.mem_cons_of_mem _ hr)).cons hfirst.1 hfirst.2

theorem Hands.stop (h : Hands bytes requests (.error fault)) (rest : Bytes) :
    Hands (bytes ++ rest) requests (.error fault) := by
  cases h with
  | refused split steady isWrite refusal part short =>
    refine .refused split steady isWrite refusal (part.trans (List.prefix_append _ _)) ?_
    rw [List.length_append]
    omega

/-- A chunk is handed over by requests to take what is left of it. -/
theorem Delivery.put_asks (d : Delivery σ) (chunk : Bytes) :
    ∃ requests, d.Asks requests (d.put chunk).2 ∧ Hands chunk requests (d.put chunk).1 := by
  fun_induction put d chunk with
  | case1 d => exact ⟨[], d.asks_nothing, .whole (by simp) rfl⟩
  | case2 d b rest state hw =>
    exact ⟨_, asks_write_nothing hw (by simp) rfl, hands_refused rfl rfl rfl (by simp)⟩
  | case3 d b rest n state hw ih =>
    obtain ⟨requests, hasks, hhands⟩ := ih
    have hsplit : (Request.write (b :: rest) (.took (n + 1))).accepted ++ rest.drop n =
        b :: rest := by simp [Request.accepted]
    rw [← hsplit]
    exact ⟨_, (asks_write hw (by simp)).append hasks, hhands.cons rfl rfl⟩
  | case4 d b rest state hw ih =>
    obtain ⟨requests, hasks, hhands⟩ := ih
    have hnothing : (Request.write (b :: rest) .again).accepted ++ b :: rest = b :: rest := rfl
    rw [← hnothing]
    exact ⟨_, (asks_write_nothing hw (by simp) rfl).append hasks, hhands.cons rfl rfl⟩
  | case5 d b rest cause state hw =>
    exact ⟨_, asks_write_nothing hw (by simp) rfl, hands_refused rfl rfl rfl (by simp)⟩

end TokenDump.Dump
