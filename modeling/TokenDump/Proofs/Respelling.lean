import TokenDump.Proofs.Boundaries
import TokenDump.Proofs.Segmentation

/-! # Respelling

Tokens written out again, with something between them that keeps them apart, are read back as the
same tokens. -/
namespace TokenDump

/-- The token as source text; only the text of a string lacks something, its quotes. -/
def Token.spelled (t : Token) : List Char :=
  if t.kind = .string then '"' :: (t.text.toList ++ ['"']) else t.text.toList

namespace Lexer

/-- What keeps two tokens apart: a blank, then more filler. In compatible mode all of it is blank,
since there the comments of a gap are not free to follow each other. -/
structure Separator (trivia : Trivia) where
  first : Char
  more : List Char
  isBlank : isBlank first = true
  filler : Filler trivia more

def Separator.text {trivia : Trivia} (s : Separator trivia) : List Char := s.first :: s.more

/-- The tokens written out behind `lead`, with the separators between them. -/
def respelledFrom {trivia : Trivia} (lead : List Char) (separators : ℕ → Separator trivia) :
    List Token → List Char
  | [] => []
  | t :: ts =>
    lead ++ (t.spelled ++ respelledFrom (separators 0).text (fun i => separators (i + 1)) ts)

/-- The tokens written out, with the separators between them. -/
def respelled {trivia : Trivia} (separators : ℕ → Separator trivia) (ts : List Token) : List Char :=
  respelledFrom [] separators ts

/-- The tokens without their places, and without the end token. -/
def values (ts : List (Located Token)) : List Token := (proper ts).map (·.value)

variable {trivia : Trivia} {p : Position} {text lexeme rest rest' : List Char} {t : Token}
  {ts : List (Located Token)}

theorem values_cons {u : Located Token} (hu : u.value.isEof = false) :
    values (u :: ts) = u.value :: values ts := by
  rw [values, proper_cons hu]
  rfl

theorem Separator.text_filler (s : Separator trivia) : Filler trivia s.text :=
  .blank s.isBlank s.filler

theorem head_respelledFrom (s : Separator trivia) (separators : ℕ → Separator trivia)
    (ts : List Token) :
    ∀ d ∈ (respelledFrom s.text separators ts).head?, isBlank d = true := by
  cases ts with
  | nil => simp [respelledFrom]
  | cons t ts => simp [respelledFrom, Separator.text, s.isBlank]

theorem Lexeme.spelled (h : Lexeme trivia lexeme rest t) (ht : Closed t) : t.spelled = lexeme := by
  cases h with
  | unclosedString => exact absurd rfl ht.1
  | unclosedComment => exact absurd rfl ht.2
  | _ => simp [Token.spelled, Token.illegal]

/-- A token that takes the rest of the text is spelled as its mark, and must come last. -/
theorem Lexeme.respelled (h : Lexeme trivia lexeme rest t)
    (hr : ∀ d ∈ rest'.head?, isBlank d = true) (hlast : rest = [] → rest' = []) :
    Lexeme trivia t.spelled rest' t := by
  by_cases ht : Closed t
  · rw [h.spelled ht]
    exact h.followed ht fun d hd => .inl (hr d hd)
  · obtain rfl := hlast (h.closed_or_last.resolve_left ht)
    rcases not_and_or.mp ht with hs | hc
    · obtain rfl := not_not.mp hs
      have hmark : Lexeme trivia ['"'] [] .unclosedString := .unclosedString (by simp)
      exact hmark
    · obtain rfl := not_not.mp hc
      have hmark : UnclosedComment ['/', '*'] := .intro (by simp)
      exact .unclosedComment h.of_unclosedComment.1 hmark

theorem Segmentation.map_value (h : Segmentation trivia p text ts) :
    ts.map (·.value) = values ts ++ [.eof] := by
  induction h with
  | eof skipped => rfl
  | token skipped read more ih =>
    rw [values_cons read.isEof]
    exact congrArg _ ih

theorem not_isEof_of_mem_values (h : t ∈ values ts) : t.isEof = false := by
  obtain ⟨u, hu, rfl⟩ := List.mem_map.mp h
  simpa using (List.mem_filter.mp hu).2

/-- The gap before each token may be any filler that keeps it apart from the one before. -/
theorem Segmentation.respell (h : Segmentation trivia p text ts) (q : Position)
    {lead : List Char} (hlead : Filler trivia lead) (separators : ℕ → Separator trivia) :
    ∃ us, Segmentation trivia q (respelledFrom lead separators (values ts)) us ∧
      values us = values ts := by
  induction h generalizing q lead separators with
  | eof skipped =>
    have hnil : Gap trivia [] 0 [] := gap_nil (by simp) (by simp) (by simp)
    exact ⟨_, .eof hnil, rfl⟩
  | @token p gap lexeme rest n t ts skipped read more ih =>
    let after := respelledFrom (separators 0).text (fun i => separators (i + 1)) (values ts)
    have hr : ∀ d ∈ after.head?, isBlank d = true := head_respelledFrom _ _ _
    have hlast : rest = [] → after = [] := by
      rintro rfl
      simp [after, more.of_nil, values, proper_eof, respelledFrom, Token.isEof, Token.eof]
    have hread : Lexeme trivia t.spelled after t := read.respelled hr hlast
    obtain ⟨us, hus, hvalues⟩ := ih ((q.advanceOver lead).advanceOver t.spelled)
      (separators 0).text_filler fun i => separators (i + 1)
    rw [values_cons read.isEof]
    have hgap : Gap trivia [] 0 (t.spelled ++ after) := hread.bare hr
    refine ⟨_, .prepend hlead (.token hgap hread hus), ?_⟩
    rw [values_cons read.isEof, hvalues]

theorem tokenize_of_segmentation {text : String} {settings : Settings.Scanning}
    (h : Segmentation settings.trivia .start text.toList ts) :
    tokenize text settings = .ok (values ts ++ [.eof]) := by
  obtain ⟨htokens, hfailure⟩ := drain_ofText h
  rw [tokenize_of_drain htokens hfailure, h.map_value]

/-- The tokens of a text, written out with any separators between them, are read as they were. -/
theorem tokenize_respelled (text : String) (settings : Settings.Scanning) :
    ∃ tokens, (∀ t ∈ tokens, t.isEof = false) ∧
      tokenize text settings = .ok (tokens ++ [.eof]) ∧
      ∀ separators : ℕ → Separator settings.trivia,
        tokenize (String.ofList (respelled separators tokens)) settings =
          .ok (tokens ++ [.eof]) := by
  obtain ⟨ts, hts⟩ := exists_segmentation settings.trivia .start text.toList
  refine ⟨values ts, fun t => not_isEof_of_mem_values, tokenize_of_segmentation hts, ?_⟩
  intro separators
  obtain ⟨us, hus, hvalues⟩ := hts.respell .start .nil separators
  rw [← hvalues]
  exact tokenize_of_segmentation (by simpa [respelled, hvalues] using hus)

end Lexer
end TokenDump
