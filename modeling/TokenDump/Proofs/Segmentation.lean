import TokenDump.Proofs.Calls
import TokenDump.Proofs.Coordinates
import TokenDump.Proofs.Walking

/-! # Scanning a text

The tokens that a lexer hands out of a text are those of its one segmentation. -/
namespace TokenDump.Lexer

open Cursor

/-- A token of a text that begins at `p`, on a stretch of the text that is not empty. -/
def Covers (p : Position) (text : List Char) (t : Located Token) : Prop :=
  ∃ left covered right, text = left ++ covered ++ right ∧ covered ≠ [] ∧
    t.span = ⟨p.advanceOver left, p.advanceOver (left ++ covered)⟩

variable {trivia : Trivia} {p : Position} {text : List Char} {t : Located Token}
  {ts : List (Located Token)} {l : Lexer}

theorem Covers.prepend {before : List Char} (h : Covers (p.advanceOver before) text t) :
    Covers p (before ++ text) t := by
  obtain ⟨left, covered, right, rfl, hne, hspan⟩ := h
  refine ⟨before ++ left, covered, right, by simp, hne, ?_⟩
  simp only [hspan, Position.advanceOver_append]

theorem Covers.offset_lt (h : Covers p text t) : t.span.start.offset < t.span.stop.offset := by
  obtain ⟨left, covered, right, -, hne, hspan⟩ := h
  have := Utf8.size_pos hne
  simp only [hspan, Position.offset_advanceOver, Utf8.size_append]
  omega

theorem Segmentation.covers (h : Segmentation trivia p text ts) :
    ∃ before, ts = before ++ [⟨.eof, .point (p.advanceOver text)⟩] ∧
      ∀ t ∈ before, t.value.isEof = false ∧ Covers p text t := by
  induction h with
  | eof skipped => exact ⟨[], rfl, by simp⟩
  | @token p gap lexeme rest n t ts skipped read more ih =>
    obtain ⟨before, rfl, hb⟩ := ih
    rw [← Position.advanceOver_append]
    refine ⟨_ :: before, rfl, ?_⟩
    intro u hu
    rcases List.mem_cons.mp hu with rfl | hu
    · exact ⟨read.isEof, gap, lexeme, rest, rfl, read.ne_nil, rfl⟩
    · exact ⟨(hb u hu).1, (hb u hu).2.prepend⟩

theorem drain_of_segmentation (h : Segmentation trivia p text ts) (hl : l.Reads none p text)
    (hs : l.settings.trivia = trivia) : l.drain.1 = ts ∧ l.drain.2.1 = none := by
  induction h generalizing l with
  | @eof p gap n skipped =>
    subst hs
    rw [← List.append_nil gap] at hl
    obtain ⟨q, -, -, -, hnext⟩ := hl.next_ok (passes_scanToken_eof skipped) (by simp)
    have hr : l.next.result = .ok ⟨.eof, .point _⟩ := congrArg Step.result hnext
    rw [drain_of_eof hr rfl]
    exact ⟨rfl, rfl⟩
  | token skipped read more ih =>
    subst hs
    obtain ⟨n, hp⟩ := passes_scanToken skipped read
    obtain ⟨hr, hnext, hset⟩ := hl.next hp read.isEof (by simp)
    obtain ⟨htokens, herror⟩ := ih hnext (by rw [hset])
    rw [drain_of_ok hr read.isEof]
    exact ⟨congrArg _ htokens, herror⟩

theorem reads_ofText (text : String) (settings : Settings.Scanning) :
    (ofText text settings).Reads none .start text.toList :=
  ⟨rfl, rfl, (holds_ofText _).shows, rfl⟩

theorem drain_ofText {text : String} {settings : Settings.Scanning}
    (h : Segmentation settings.trivia .start text.toList ts) :
    (ofText text settings).drain.1 = ts ∧ (ofText text settings).drain.2.1 = none :=
  drain_of_segmentation h (reads_ofText text settings) rfl

theorem tokenize_of_drain {text : String} {settings : Settings.Scanning}
    (htokens : (ofText text settings).drain.1 = ts)
    (hfailure : (ofText text settings).drain.2.1 = none) :
    tokenize text settings = .ok (ts.map (·.value)) := by
  rw [tokenize]
  generalize (ofText text settings).drain = r at htokens hfailure
  obtain ⟨tokens, failure, last, notices⟩ := r
  obtain rfl : tokens = ts := htokens
  obtain rfl : failure = none := hfailure
  rfl

/-- Scanning a text gives no error. The tokens are those of the one segmentation of the text, the
end token last, at the end of the text; each of the others covers some of the text. -/
theorem drain_segmentation (text : String) (settings : Settings.Scanning) :
    (ofText text settings).drain.2.1 = none ∧
    (∀ tokens, (ofText text settings).drain.1 = tokens ↔
      Segmentation settings.trivia .start text.toList tokens) ∧
    ∃ before, (ofText text settings).drain.1 =
        before ++ [⟨.eof, .point (Position.start.advanceOver text.toList)⟩] ∧
      ∀ t ∈ before, t.value.isEof = false ∧ t.span.isEmpty = false ∧
        Covers .start text.toList t := by
  have hl := reads_ofText text settings
  obtain ⟨ts, hts⟩ := exists_segmentation settings.trivia .start text.toList
  obtain ⟨htokens, herror⟩ := drain_of_segmentation hts hl rfl
  refine ⟨herror, fun tokens => ⟨?_, fun h => (drain_of_segmentation h hl rfl).1⟩, ?_⟩
  · rintro rfl
    rwa [htokens]
  · obtain ⟨before, hbefore, hcovers⟩ := hts.covers
    refine ⟨before, htokens.trans hbefore, fun t ht => ?_⟩
    have hlt := (hcovers t ht).2.offset_lt
    exact ⟨(hcovers t ht).1, by simp [Span.isEmpty]; omega, (hcovers t ht).2⟩

end TokenDump.Lexer
