import TokenDump.Proofs.Window
import TokenDump.Proofs.Grammar
import TokenDump.Lexer.Lexeme

/-! # Scans over text

A scan passes a stretch of text if every cursor that shows the stretch and what follows comes to
its end with one value, or is stopped by a fault shortly behind the text. Gaps and lexemes are
passed in this sense, so the grammar fixes what is scanned, whatever the text is read from. -/
namespace TokenDump.Lexer

open Scan Cursor

/-- From `start` the scan goes over `taken`, with `rest` behind it, gives `value` and enters `n`
comments. -/
def Scan.Passes {α : Type} (m : Scan α) (value : α) (start : Position) (taken rest : List Char)
    (n : Nat) : Prop :=
  ∀ (stop : Option Fault) (p : Progress), p.cursor.Shows stop (taken ++ rest) →
    p.cursor.position = start →
    Moved stop value start taken rest ((m p).1, (m p).2.cursor) ∧
      ((m p).1 = .ok value → (m p).2.comments = p.comments + n)

variable {α β : Type} {m : Scan α} {f : α → Scan β} {a : α} {b : β} {start : Position}
  {taken more rest : List Char} {n k : Nat}

theorem passes_pure (a : α) (start : Position) (rest : List Char) :
    (pure a : Scan α).Passes a start [] rest 0 := fun _ _ hs hp => ⟨.done hs hp, fun _ => rfl⟩

theorem Scan.Passes.bind (hm : m.Passes a start taken (more ++ rest) n)
    (hf : (f a).Passes b (start.advanceOver taken) more rest k) :
    (m >>= f).Passes b start (taken ++ more) rest (n + k) := by
  intro stop p hs hp
  obtain ⟨hmoved, hcount⟩ := hm stop p (by simpa using hs) hp
  rw [bind_apply]
  generalize m p = r at hmoved hcount ⊢
  obtain ⟨result, q⟩ := r
  cases hmoved with
  | done hq hpos =>
    obtain ⟨hmoved', hcount'⟩ := hf stop q hq hpos
    refine ⟨hmoved'.prepend, fun h => ?_⟩
    rw [hcount' h, hcount rfl, Nat.add_assoc]
  | stopped before hfault hshort hsplit hpos hc hl =>
    refine ⟨.stopped before hfault ?_ (by simpa using hsplit) hpos hc hl, fun h => by simp at h⟩
    simp only [List.length_append] at hshort
    omega

theorem Scan.Passes.bind_free (hm : m.Passes a start taken (more ++ rest) n)
    (hf : (f a).Passes b (start.advanceOver taken) more rest 0) :
    (m >>= f).Passes b start (taken ++ more) rest n := hm.bind hf

theorem Scan.Passes.bind_nil (hm : m.Passes a start taken rest n)
    (hf : (f a).Passes b (start.advanceOver taken) [] rest 0) :
    (m >>= f).Passes b start taken rest n := by
  have h : (m >>= f).Passes b start (taken ++ []) rest n := Scan.Passes.bind_free (by simpa) hf
  simpa using h

theorem passes_cursor {f : Cursor → Scan β}
    (h : ∀ (stop : Option Fault) (c : Cursor), c.Shows stop (taken ++ rest) → c.position = start →
      (f c).Passes b start taken rest n) :
    (cursor >>= f).Passes b start taken rest n :=
  fun stop p hs hp => h stop p.cursor hs hp stop p hs hp

theorem passes_enterComment {f : Unit → Scan β} (h : (f ()).Passes b start taken rest n) :
    (enterComment >>= f).Passes b start taken rest (n + 1) := by
  intro stop p hs hp
  obtain ⟨hmoved, hcount⟩ := h stop { p with comments := p.comments + 1 } hs hp
  exact ⟨hmoved, fun hr => (hcount hr).trans (Nat.add_right_comm _ _ _)⟩

theorem passes_takeWhile {q : Char → Option Char → Bool} (h : Runs q taken rest) :
    (Scan.takeWhile q).Passes taken start taken rest 0 := by
  intro stop p hs hp
  subst hp
  exact ⟨hs.takeWhile h, fun _ => rfl⟩

theorem passes_run {q : Char → Option Char → Bool} {f : List Char → Scan β}
    (h : Runs q taken (more ++ rest))
    (hf : (f taken).Passes b (start.advanceOver taken) more rest n) :
    (Scan.takeWhile q >>= f).Passes b start (taken ++ more) rest n := by
  simpa using (passes_takeWhile h).bind hf

theorem advance_apply (p : Progress) : Scan.advance p =
    (p.cursor.advance.1.map fun _ => (), { p with cursor := p.cursor.advance.2 }) := by
  simp only [Scan.advance, bind_apply, move]
  cases p.cursor.advance.1 <;> rfl

theorem passes_advance (c : Char) : Scan.advance.Passes () start [c] rest 0 := by
  intro stop p hs hp
  rw [advance_apply]
  by_cases ht : stop ≠ none → 2 ≤ rest.length
  · obtain ⟨ha, hs', hpos⟩ := hs.advance ht
    rw [ha]
    exact ⟨.done hs' (by rw [hpos, hp]; rfl), fun _ => rfl⟩
  · obtain ⟨hstop, hlen⟩ : stop ≠ none ∧ rest.length < 2 := by simpa using ht
    obtain ⟨fault, rfl⟩ := Option.ne_none_iff_exists'.mp hstop
    obtain ⟨b, rfl, ha, hc, hl, hpos⟩ := hs.advance_stopped hlen
    rw [ha]
    exact ⟨.stopped [] rfl hlen rfl (by rw [hpos, hp]; rfl) hc hl,
      fun h => by simp [Except.map] at h⟩

theorem passes_step {f : Unit → Scan β} (c : Char)
    (h : (f ()).Passes b (start.advance c) taken rest n) :
    (Scan.advance >>= f).Passes b start (c :: taken) rest n := by
  simpa using (passes_advance c).bind h

theorem passes_advance_nil : Scan.advance.Passes () start [] [] 0 := by
  intro stop p hs hp
  have ha : p.cursor.advance = (.ok none, p.cursor) := by
    have hc : p.cursor.current = none := hs.current
    simp [Cursor.advance, hc]
  rw [advance_apply, ha]
  exact ⟨.done hs hp, fun _ => rfl⟩

theorem Scan.Passes.located (h : m.Passes a start taken rest n) :
    (Scan.located m).Passes ⟨a, start, start.advanceOver taken⟩ start taken rest n := by
  refine passes_cursor fun _ c _ hp => ?_
  subst hp
  let finish (v : α) : Scan (Located α) := cursor >>= fun d => pure ⟨v, c.position, d.position⟩
  have hend : (finish a).Passes ⟨a, c.position, c.position.advanceOver taken⟩
      (c.position.advanceOver taken) [] rest 0 :=
    passes_cursor fun _ d _ hd => by
      rw [hd]
      exact passes_pure _ _ _
  exact h.bind_nil (f := finish) hend

end TokenDump.Lexer
