import TokenDump.Proofs.Boundaries
import TokenDump.Proofs.Segmentation

/-! # Lines put together

In strict mode the tokens of two pieces of source, one on the lines behind the other, are those of
the first piece and those of the second, which are moved down. -/
namespace TokenDump

/-- The position further down in a text, in the same column. -/
def Position.shift (p : Position) (bytes lines : Nat) : Position :=
  ⟨p.offset + bytes, p.line + lines, p.column⟩

def Located.shift {α : Type} (t : Located α) (bytes lines : Nat) : Located α :=
  ⟨t.value, t.span.start.shift bytes lines, t.span.stop.shift bytes lines⟩

namespace Position

variable {p : Position} {bytes lines : Nat}

theorem advance_shift (p : Position) (bytes lines : Nat) (c : Char) :
    (p.shift bytes lines).advance c = (p.advance c).shift bytes lines := by
  unfold advance shift
  split <;> simp <;> omega

theorem advanceOver_shift (p : Position) (bytes lines : Nat) (text : List Char) :
    (p.shift bytes lines).advanceOver text = (p.advanceOver text).shift bytes lines := by
  induction text generalizing p with
  | nil => rfl
  | cons c text ih => rw [advanceOver_cons, advanceOver_cons, advance_shift, ih]

/-- Behind a newline the text goes on in the column where it began. -/
theorem start_advanceOver_newline (text : List Char) :
    start.advanceOver (text ++ ['\n']) =
      start.shift (Utf8.size text + 1) (text.count '\n' + 1) := by
  have hnewline : Utf8.size ['\n'] = 1 := by decide
  rw [start_advanceOver, lastRow_append_singleton, Utf8.size_append, List.count_append, hnewline]
  simp [shift, start, endsRow]

end Position

namespace Lexer

variable {trivia : Trivia} {p : Position} {s t : List Char} {ts us : List (Located Token)}

theorem Segmentation.shift (h : Segmentation trivia p s ts) (bytes lines : Nat) :
    Segmentation trivia (p.shift bytes lines) s (ts.map (·.shift bytes lines)) := by
  induction h with
  | @eof p gap n skipped =>
    rw [List.map_singleton, Located.shift, Span.point, ← Position.advanceOver_shift]
    exact .eof skipped
  | token skipped read more ih =>
    rw [List.map_cons, Located.shift, ← Position.advanceOver_shift, ← Position.advanceOver_shift]
    rw [← Position.advanceOver_shift] at ih
    exact .token skipped read ih

/-- The newline ends a line comment that is left open at the end of the first piece. -/
theorem Segmentation.join (h : Segmentation .strict p s ts) (hc : ∀ u ∈ ts, Closed u.value)
    (h' : Segmentation .strict (p.advanceOver (s ++ ['\n'])) t us) :
    Segmentation .strict p (s ++ ['\n'] ++ t) (proper ts ++ us) := by
  induction h with
  | @eof p gap n skipped => exact .prepend (StrictGap.filler_newline skipped) h'
  | @token p gap lexeme rest n u ts skipped read more ih =>
    obtain ⟨hu, hts⟩ := List.forall_mem_cons.mp hc
    have hr : ∀ d ∈ (rest ++ ['\n'] ++ t).head?, isBlank d = true ∨ rest.head? = some d := by
      cases rest with
      | nil => simp [isBlank]
      | cons c rest => simp
    have hbare : Gap .strict [] 0 (lexeme ++ (rest ++ ['\n'] ++ t)) :=
      read.bare_followed hu skipped hr
    have hfiller : Filler .strict gap := StrictGap.filler skipped (by simp [read.ne_nil])
    obtain ⟨m, hgap⟩ := hfiller.before_gap hbare
    rw [List.append_nil] at hgap
    have hmore := ih hts (by simpa [Position.advanceOver_append] using h')
    rw [proper_cons read.isEof]
    simpa using Segmentation.token hgap (read.followed hu hr) hmore

/-- A newline keeps two pieces of source apart, unless the first leaves a string or a comment
open. -/
theorem drain_join (s t : String) (settings : Settings.Scanning) :
    let scan (text : String) := (ofText text { settings with trivia := .strict }).drain
    (∀ u ∈ (scan s).1, Closed u.value) →
      (scan (s ++ "\n" ++ t)).2.1 = none ∧
      (scan (s ++ "\n" ++ t)).1 = proper (scan s).1 ++
        (scan t).1.map (·.shift (Utf8.size s.toList + 1) (s.toList.count '\n' + 1)) := by
  intro scan h
  have hscan {text : String} {ts} (h : Segmentation .strict .start text.toList ts) :
      (scan text).1 = ts ∧ (scan text).2.1 = none := drain_ofText h
  obtain ⟨ts, hts⟩ := exists_segmentation .strict .start s.toList
  obtain ⟨us, hus⟩ := exists_segmentation .strict .start t.toList
  rw [(hscan hts).1] at h ⊢
  rw [(hscan hus).1]
  have hmoved := hus.shift (Utf8.size s.toList + 1) (s.toList.count '\n' + 1)
  rw [← Position.start_advanceOver_newline] at hmoved
  have htext : (s ++ "\n" ++ t).toList = s.toList ++ ['\n'] ++ t.toList := by simp
  have hjoin := hts.join h hmoved
  rw [← htext] at hjoin
  exact ⟨(hscan hjoin).2, (hscan hjoin).1⟩

theorem drain_join_openLine :
    let scan (text : String) := (ofText text ⟨.strict, true, true⟩).drain
    (∀ u ∈ (scan "a+ // b").1, Closed u.value) ∧
      (scan ("a+ // b" ++ "\n" ++ "+")).1 =
        [⟨⟨.identifier, "a"⟩, ⟨0, 1, 1⟩, ⟨1, 1, 2⟩⟩, ⟨⟨.operator .plus, "+"⟩, ⟨1, 1, 2⟩, ⟨2, 1, 3⟩⟩,
          ⟨⟨.operator .plus, "+"⟩, ⟨8, 2, 1⟩, ⟨9, 2, 2⟩⟩, ⟨.eof, .point ⟨9, 2, 2⟩⟩] := by
  intro scan
  have closed : ∀ u ∈ (scan "a+ // b").1, Closed u.value := by decide +kernel
  have hjoin := (drain_join "a+ // b" "+" ⟨.strict, true, true⟩ closed).2
  exact ⟨closed, hjoin.trans (by decide +kernel)⟩

end Lexer
end TokenDump
