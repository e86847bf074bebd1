import Mathlib.Algebra.GroupWithZero.Nat
import TokenDump.Proofs.Encoding
import TokenDump.Proofs.Willing

/-! # The lines of a completed dump

A dump is completed when all lines were taken and the writer was flushed. The separators then split
its output into the lines, as far as no line has a newline of its own. -/
namespace TokenDump

/-- The byte that separates lines. -/
def newline : UInt8 := 10

namespace Utf8

theorem newline_eq {n : Nat} (hn : n < 256) (h : newline = UInt8.ofNat n) : n = 10 := by
  have htoNat := congrArg UInt8.toNat h
  rw [toNat_byte hn] at htoNat
  exact htoNat.symm

theorem newline_mem_encodeChar {c : Char} (h : newline ∈ String.utf8EncodeChar c) :
    c = '\n' := by
  rw [encodeChar_eq] at h
  split_ifs at h
  · have hvalue := newline_eq (by omega) (List.mem_singleton.mp h)
    exact Char.toNat_inj.mp hvalue
  all_goals
    simp only [List.mem_cons, List.not_mem_nil, or_false] at h
  · rcases h with h | h
    all_goals
      have := newline_eq (by omega) h
      omega
  · rcases h with h | h | h
    all_goals
      have := newline_eq (by omega) h
      omega
  · rcases h with h | h | h | h
    all_goals
      have := newline_eq (by omega) h
      omega

theorem count_encodeChar (c : Char) :
    (String.utf8EncodeChar c).count newline = [c].count '\n' := by
  by_cases hc : c = '\n'
  · subst hc
    rfl
  · have hnone : newline ∉ String.utf8EncodeChar c := fun h => hc (newline_mem_encodeChar h)
    rw [List.count_eq_zero.mpr hnone, List.count_singleton, if_neg (by simpa using hc)]

theorem count_encode (text : List Char) : (encode text).count newline = text.count '\n' := by
  induction text with
  | nil => rfl
  | cons c text ih =>
    have hcons : encode (c :: text) = String.utf8EncodeChar c ++ encode text := rfl
    rw [hcons, List.count_append, count_encodeChar, ih, ← List.count_append, List.singleton_append]

end Utf8

namespace Dump

open Lexer

/-- The dump has come to its end, and has handed out no error but that of illegal tokens. -/
def Completed : Except DumpError Summary → Prop
  | .ok _ | .error (.illegalTokens _) => True
  | .error _ => False

/-- The line of a token as it is written, without the separator. -/
def lineText (settings : Settings.Dumping) (t : Located Token) : Bytes :=
  Utf8.encode (line t settings).toList

variable {σ : Type} {settings : Settings.Dumping} {ts : List (Located Token)} {l : Lexer}
  {d : Delivery σ} {elapsed : Nat}

theorem lineBytes_eq (settings : Settings.Dumping) (t : Located Token) :
    lineBytes settings t = lineText settings t ++ [newline] := rfl

theorem script_cons (settings : Settings.Dumping) (t : Located Token)
    (ts : List (Located Token)) :
    script settings (t :: ts) = lineText settings t ++ newline :: script settings ts := by
  rw [script, List.flatMap_cons, lineBytes_eq, List.append_assoc]
  rfl

/-- The newlines are those that end the lines and those inside of them. -/
theorem count_script (settings : Settings.Dumping) (ts : List (Located Token)) :
    (script settings ts).count newline =
      ts.length + (ts.map fun t => (line t settings).toList.count '\n').sum := by
  induction ts with
  | nil => rfl
  | cons t ts ih =>
    rw [script_cons, List.count_append, List.count_cons_self, ih, lineText, Utf8.count_encode,
      List.map_cons, List.sum_cons, List.length_cons]
    omega

theorem count_script_of_forall (h : ∀ t ∈ ts, '\n' ∉ (line t settings).toList) :
    (script settings ts).count newline = ts.length := by
  rw [count_script, Nat.add_eq_left, List.sum_eq_zero_iff_forall_eq_nat]
  intro n hn
  obtain ⟨t, ht, rfl⟩ := List.mem_map.mp hn
  exact List.count_eq_zero.mpr (h t ht)

theorem splitOn_script (h : ∀ t ∈ ts, '\n' ∉ (line t settings).toList) :
    (script settings ts).splitOn newline = ts.map (lineText settings) ++ [[]] := by
  induction ts with
  | nil => rfl
  | cons t ts ih =>
    obtain ⟨ht, hts⟩ := List.forall_mem_cons.mp h
    have hnone : newline ∉ lineText settings t := by
      rw [← List.count_eq_zero, lineText, Utf8.count_encode, List.count_eq_zero]
      exact ht
    rw [script_cons, List.splitOn_append_cons_self_of_not_mem hnone, ih hts]
    rfl

theorem tokens_of_verdict {summary : Summary}
    (h : verdict settings ts none = .ok summary) : summary.tokens = (proper ts).length := by
  simp only [verdict] at h
  split at h
  · cases h
  · cases h
    rfl

theorem run_completed (h : Completed (run settings elapsed l d).result) :
    (run settings elapsed l d).delivery.taken = d.taken ++ script settings (proper l.drain.1) ∧
      (run settings elapsed l d).result = verdict settings l.drain.1 none := by
  obtain ⟨requests, result, hasks, hhands, hends⟩ := putLines_asks settings l d 0 0
  cases result with
  | error fault =>
    simp only [run, finish, hends] at h
    exact h.elim
  | ok u =>
    cases hhands with
    | whole steady all =>
      have htaken := hasks.taken
      rw [all] at htaken
      simp only [run] at h ⊢
      rcases finish_of_ends settings elapsed hends with ⟨hresult, hsame⟩ | ⟨fault, -, hresult⟩
      · cases hfailure : l.drain.2.1 with
        | none => exact ⟨hsame.trans htaken, hfailure ▸ hresult⟩
        | some error =>
          rw [hresult, hfailure] at h
          exact h.elim
      · rw [hresult] at h
        exact h.elim

end Dump
end TokenDump
