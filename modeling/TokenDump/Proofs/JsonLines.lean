import Mathlib.Data.List.Forall2
import TokenDump.Interchange
import TokenDump.Proofs.JsonRoundTrip
import TokenDump.Proofs.OutputLines

/-! # JSON dumps read back

The output of a dump as JSON has one line for each token, and from each line the token can be read
again. -/
namespace TokenDump.Dump

open Json Lexer

/-- The bytes are the JSON text of an object from which the token can be read. Line and column are
those where the token starts, and stand there on demand only. -/
def Records (positions : Bool) (t : Located Token) (bytes : Bytes) : Prop :=
  ∃ text members, Utf8.decode? bytes = some text ∧
    parse? (String.ofList text) = some (.object members) ∧
    Interchange.token? (.object members) = some t.value ∧
    valuesOf "line" members = (if positions then [.ofNat t.span.start.line] else []) ∧
    valuesOf "column" members = (if positions then [.ofNat t.span.start.column] else [])

variable {σ : Type} {settings : Settings.Dumping}

theorem plain_tokenValue (t : Located Token) (positions : Bool) :
    Plain (tokenValue t positions) := by
  refine .record ?_
  cases positions
  · simpa using ⟨Plain.ofString _, Plain.ofString _⟩
  · simpa using ⟨Plain.ofString _, Plain.ofString _, Plain.ofNat _, Plain.ofNat _⟩

/-- Members with other keys are passed over. -/
theorem token?_tokenValue (t : Located Token) (positions : Bool) :
    Interchange.token? (tokenValue t positions) = some t.value := by
  have hkind := Kind.ofName?_name t.value.kind
  cases positions
  all_goals
    simp [Interchange.token?, Interchange.kind?, tokenValue, required?, fields?, valuesOf,
      Value.record, Value.ofString, choice?, string?, hkind]

theorem records_lineText (h : settings.format = .json) (t : Located Token) :
    Records settings.positions t (lineText settings t) := by
  have hline : (line t settings).toList = (tokenValue t settings.positions).print := by
    simp [line, h, Value.compact]
  have hparse := (plain_tokenValue t settings.positions).parse?_compact
  refine ⟨_, _, Utf8.decode?_encode _, by rw [hline]; exact hparse, token?_tokenValue t _, ?_, ?_⟩
  all_goals cases settings.positions <;> simp [valuesOf]

theorem newline_not_mem_line (h : settings.format = .json) (t : Located Token) :
    '\n' ∉ (line t settings).toList := by
  intro hmem
  have hline : (line t settings).toList = (tokenValue t settings.positions).print := by
    simp [line, h, Value.compact]
  have hvisible := (plain_tokenValue t settings.positions).visible _ (hline ▸ hmem)
  revert hvisible
  decide

/-- The output of a completed dump as JSON has as many newlines as there are tokens. Each of them
ends a line, and from that line its token can be read, with the place where it starts if that was
asked for. -/
theorem run_json (text : String) (scanning : Settings.Scanning) (positions failOnIllegal : Bool)
    (elapsed : Nat) (w : Writer σ) (s : σ) :
    let tokens := proper (ofText text scanning).drain.1
    let o := run ⟨.json, positions, failOnIllegal⟩ elapsed (ofText text scanning) (.start w s)
    Completed o.result →
      o.delivery.taken.count newline = tokens.length ∧
      (∀ summary, o.result = .ok summary → summary.tokens = tokens.length) ∧
      ∃ lines, o.delivery.taken.splitOn newline = lines ++ [[]] ∧
        List.Forall₂ (Records positions) tokens lines := by
  intro tokens o h
  obtain ⟨htaken, hresult⟩ := run_completed h
  have hscript : o.delivery.taken = script ⟨.json, positions, failOnIllegal⟩ tokens := htaken
  have hnone : ∀ t ∈ tokens, '\n' ∉ (line t ⟨.json, positions, failOnIllegal⟩).toList :=
    fun t ht => newline_not_mem_line rfl t
  refine ⟨?_, ?_, _, hscript ▸ splitOn_script hnone, ?_⟩
  · rw [hscript]
    exact count_script_of_forall hnone
  · intro summary hsummary
    exact tokens_of_verdict (hresult.symm.trans hsummary)
  · rw [List.forall₂_map_right_iff, List.forall₂_same]
    exact fun t ht => records_lineText rfl t

/-- A string with a newline and a control character in it, and a letter of two bytes behind it. -/
theorem run_json_newline :
    let tokens := proper (ofText "\"a\n\x01\" é" ⟨.strict, true, true⟩).drain.1
    let o := run ⟨.json, true, false⟩ 0 (ofText "\"a\n\x01\" é" ⟨.strict, true, true⟩)
      (.start .memory ⟨⟩)
    Completed o.result ∧ o.delivery.taken.count newline = 2 ∧
      tokens.map (·.value) = [⟨.string, "a\n\x01"⟩, ⟨.identifier, "é"⟩] ∧
      ∃ lines, List.Forall₂ (Records true) tokens lines := by
  intro tokens o
  have hresult : o.result = .ok ⟨2, 0, 2⟩ := by
    rw [show o.result = _ from toMemory_result _ _ _]
    decide +kernel
  have hcompleted : Completed o.result := by
    rw [hresult]
    trivial
  obtain ⟨hcount, hsummary, lines, -, hlines⟩ :=
    run_json "\"a\n\x01\" é" ⟨.strict, true, true⟩ true false 0 .memory ⟨⟩ hcompleted
  refine ⟨hcompleted, hcount.trans (hsummary _ hresult).symm, ?_, lines, hlines⟩
  decide +kernel

end TokenDump.Dump
