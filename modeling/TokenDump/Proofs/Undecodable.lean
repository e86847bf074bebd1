import TokenDump.Proofs.Segmentation
import TokenDump.Proofs.Delivery

/-! # Undecodable sources

Behind a text, a source may go on with bytes that are no character, or fail. The tokens that end
two characters before that place are still handed out; the next call gives the error. -/
namespace TokenDump

open Cursor

namespace Feed

/-- No character stands at the front of the bytes, and on them the feed ends or fails. -/
structure Undecodable (bad : Bytes) (after : Feed) : Prop where
  noCharacter : ∀ c, ¬ String.utf8EncodeChar c <+: bad
  ends : after = [] ∧ bad ≠ [] ∨
    ∃ cause rest, after = .fault cause :: rest ∧ cause.kind ≠ .interrupted

/-- The fault is one of decoding or the feed's own, and the feed's own where the bytes could still
have become a character. -/
def Blames (bad : Bytes) (after : Feed) (fault : Fault) : Prop :=
  (fault.kind = .invalidData ∨ after.head? = some (.fault fault)) ∧
    ∀ cause c, after.head? = some (.fault cause) → bad <+: String.utf8EncodeChar c → fault = cause

variable {feed after : Feed} {bad : Bytes} {fault : Fault}

theorem Undecodable.exists_ends (h : Undecodable bad after) : ∃ fault, Ends after fault := by
  rcases h.ends with ⟨rfl, -⟩ | ⟨cause, rest, rfl, hk⟩
  · exact ⟨truncated, .inl ⟨rfl, rfl⟩⟩
  · exact ⟨cause, .inr ⟨rest, rfl, hk⟩⟩

theorem Ends.blames (h : Ends after fault) (bad : Bytes) : Blames bad after fault := by
  rcases h with ⟨rfl, rfl⟩ | ⟨rest, rfl, -⟩
  · exact ⟨.inl rfl, fun cause c hc => by simp at hc⟩
  · exact ⟨.inr rfl, fun cause c hc _ => by simpa using hc⟩

theorem blames_invalid (after : Feed) (hk : fault.kind = .invalidData)
    (hn : ∀ c, ¬ bad <+: String.utf8EncodeChar c) : Blames bad after fault :=
  ⟨.inl hk, fun _ c _ hc => absurd hc (hn c)⟩

theorem encodeChar_of_prefix {lead : UInt8} {tail : Bytes} {c : Char}
    (h : lead :: tail <+: String.utf8EncodeChar c) :
    ∃ rest, String.utf8EncodeChar c = lead :: rest ∧ tail <+: rest := by
  obtain ⟨rest, hrest⟩ := h
  exact ⟨tail ++ rest, hrest.symm, rest, rfl⟩

theorem Delivers.read_undecodable (h : Delivers feed bad after) (hb : Undecodable bad after) :
    ∃ fault rest, Feed.read feed = (.fault fault, rest) ∧ Blames bad after fault := by
  obtain ⟨stop, hstop⟩ := hb.exists_ends
  cases bad with
  | nil =>
    rcases hb.ends with ⟨-, hne⟩ | ⟨cause, rest, rfl, hk⟩
    · exact absurd rfl hne
    · refine ⟨cause, rest, ?_, .inr rfl, fun _ _ hc _ => by simpa using hc⟩
      rw [Feed.read, h.byte_nil, Feed.byte, if_neg hk]
  | cons lead tail =>
    obtain ⟨rest, hlead, hrest⟩ := h.byte
    rw [Feed.read, hlead]
    cases hw : Utf8.width lead with
    | none =>
      refine ⟨badLead lead, rest, by simp only [hw], blames_invalid _ rfl fun c hc => ?_⟩
      obtain ⟨rest, hr, -⟩ := encodeChar_of_prefix hc
      simp [(Utf8.sequence_encodeChar hr).1] at hw
    | some width =>
      simp only [hw]
      by_cases hshort : tail.length < width - 1
      · have hbytes := hrest.bytes_short hstop hshort
        generalize Feed.bytes (width - 1) rest = r at hbytes ⊢
        obtain ⟨result, last⟩ := r
        obtain rfl : result = .error stop := hbytes
        exact ⟨stop, last, rfl, hstop.blames _⟩
      · have hlen : (tail.take (width - 1)).length = width - 1 := by
          rw [List.length_take]
          omega
        have hpos : 0 < width := Utf8.width_pos hw
        rw [← List.take_append_drop (width - 1) tail] at hrest
        obtain ⟨last, hbytes, -⟩ := hrest.bytes
        rw [hlen] at hbytes
        simp only [hbytes]
        cases hs : Utf8.sequence (lead :: tail.take (width - 1)) with
        | error length =>
          refine ⟨badSequence length, last, rfl, blames_invalid _ rfl fun c hc => ?_⟩
          obtain ⟨rest, hr, hp⟩ := encodeChar_of_prefix hc
          obtain ⟨hwidth, hsequence⟩ := Utf8.sequence_encodeChar hr
          have hw' : width = rest.length + 1 := by simpa [hw] using hwidth
          have htail : tail = rest := hp.eq_of_length_le (by omega)
          rw [htail, List.take_of_length_le (by omega), hsequence] at hs
          simp at hs
        | ok c =>
          have hc : String.utf8EncodeChar c = lead :: tail.take (width - 1) :=
            Utf8.encodeChar_sequence (by rw [hlen, hw, Nat.sub_add_cancel hpos]) hs
          refine absurd ?_ (hb.noCharacter c)
          rw [hc]
          exact List.prefix_cons_inj lead |>.mpr (List.take_prefix _ _)

end Feed

namespace Cursor

variable {feed : Feed} {text : List Char} {fault : Fault} {rest : List Reading}

theorem prime_short (h : feed.readings = text.map .char ++ .fault fault :: rest)
    (ht : text.length < 2) : ∃ c, (Cursor.unprimed feed).prime = (.error fault, c) ∧
      c.readPosition = Position.start.advanceOver text := by
  unfold Cursor.unprimed
  rw [h]
  match text with
  | [] => exact ⟨_, rfl, rfl⟩
  | [a] => exact ⟨_, rfl, rfl⟩
  | a :: b :: text =>
    simp only [List.length_cons] at ht
    omega

theorem prime_faulty (h : feed.readings = text.map .char ++ .fault fault :: rest)
    (ht : 2 ≤ text.length) : ∃ c, (Cursor.unprimed feed).prime = (.ok (), c) ∧
      c.Shows (some fault) text ∧ c.position = .start := by
  unfold Cursor.unprimed
  rw [h]
  match text with
  | [] => simp at ht
  | [a] => simp at ht
  | a :: b :: text => exact ⟨_, rfl, .ahead ⟨rest, rfl⟩, rfl⟩

end Cursor

namespace Lexer

variable {trivia : Trivia} {p : Position} {text : List Char} {t : Located Token}
  {ts : List (Located Token)} {l : Lexer} {fault : Fault}

theorem Segmentation.offset_le (h : Segmentation trivia p text ts) (ht : t ∈ ts) :
    p.offset ≤ t.span.stop.offset := by
  obtain ⟨before, rfl, hb⟩ := h.covers
  rcases List.mem_append.mp ht with ht | ht
  · obtain ⟨-, left, covered, right, -, -, hspan⟩ := hb t ht
    simp only [hspan, Position.offset_advanceOver]
    omega
  · obtain rfl := List.mem_singleton.mp ht
    simp only [Span.point, Position.offset_advanceOver]
    omega

/-- Whether a token gets out before a fault that stands behind the text: it is not the end, and it
ends two characters before the end of the text. -/
def getsOut (p : Position) (text : List Char) (t : Located Token) : Bool :=
  !t.value.isEof &&
    decide (t.span.stop.offset ≤ (p.advanceOver (text.take (text.length - 2))).offset)

theorem take_back {taken rest : List Char} (h : 2 ≤ rest.length) :
    (taken ++ rest).take ((taken ++ rest).length - 2) = taken ++ rest.take (rest.length - 2) := by
  rw [List.take_append, List.take_of_length_le (by simp; omega)]
  congr 2
  simp only [List.length_append]
  omega

theorem getsOut_append {taken rest : List Char} (h : 2 ≤ rest.length) :
    getsOut p (taken ++ rest) = getsOut (p.advanceOver taken) rest := by
  funext t
  rw [getsOut, getsOut, take_back h, Position.advanceOver_append]

theorem not_getsOut {taken rest : List Char} (h : rest.length < 2)
    (h2 : 2 ≤ (taken ++ rest).length) (ht : (p.advanceOver taken).offset ≤ t.span.stop.offset) :
    getsOut p (taken ++ rest) t = false := by
  have hlen : (taken ++ rest).length - 2 < taken.length := by
    simp only [List.length_append] at h2 ⊢
    omega
  have hsplit := List.take_append_drop ((taken ++ rest).length - 2) taken
  have hpos : 0 < Utf8.size (taken.drop ((taken ++ rest).length - 2)) :=
    Utf8.size_pos (by simp only [ne_eq, List.drop_eq_nil_iff]; omega)
  have hlt : (p.advanceOver ((taken ++ rest).take ((taken ++ rest).length - 2))).offset <
      (p.advanceOver taken).offset := by
    rw [List.take_append_of_le_length (by omega)]
    conv_rhs => rw [← hsplit]
    rw [Position.offset_advanceOver, Position.offset_advanceOver, Utf8.size_append]
    omega
  simp only [getsOut, Bool.and_eq_false_iff, decide_eq_false_iff_not]
  right
  omega

theorem drain_of_faulty (h : Segmentation trivia p text ts) (hl : l.Reads (some fault) p text)
    (hs : l.settings.trivia = trivia) :
    l.drain.1 = ts.filter (getsOut p text) ∧
      l.drain.2.1 = some ⟨p.advanceOver text, fault⟩ ∧
      l.drain.2.2.1.position = p.advanceOver (text.take (text.length - 2)) := by
  induction h generalizing l with
  | @eof p gap n skipped =>
    subst hs
    rw [← List.append_nil gap] at hl
    obtain ⟨hr, hpos⟩ := hl.next_error (passes_scanToken_eof skipped) (by simp)
    rw [List.append_nil] at hr hpos
    rw [drain_of_error hr]
    exact ⟨rfl, rfl, hpos⟩
  | @token p gap lexeme rest n t ts skipped read more ih =>
    subst hs
    obtain ⟨n, hp⟩ := passes_scanToken skipped read
    by_cases hlen : 2 ≤ rest.length
    · obtain ⟨hr, hnext, hset⟩ := hl.next hp read.isEof fun _ => hlen
      obtain ⟨htokens, herror, hpos⟩ := ih hnext (by rw [hset])
      have hkeep : getsOut p (gap ++ lexeme ++ rest)
          ⟨t, p.advanceOver gap, p.advanceOver (gap ++ lexeme)⟩ = true := by
        rw [getsOut_append hlen]
        simp [getsOut, read.isEof, Position.offset_advanceOver]
      rw [drain_of_ok hr read.isEof, List.filter_cons_of_pos hkeep, getsOut_append hlen,
        take_back hlen, Position.advanceOver_append p (gap ++ lexeme),
        Position.advanceOver_append p (gap ++ lexeme)]
      exact ⟨congrArg _ htokens, herror, hpos⟩
    · have hshort : rest.length < 2 := by omega
      obtain ⟨hr, hpos⟩ := hl.next_error hp hshort
      have htwo := hl.shown.two_le (by simp)
      rw [drain_of_error hr]
      refine ⟨(List.filter_eq_nil_iff.mpr fun u hu => ?_).symm, rfl, hpos⟩
      rw [Bool.not_eq_true]
      refine not_getsOut hshort htwo ?_
      rcases List.mem_cons.mp hu with rfl | hu
      · exact Nat.le_refl _
      · exact more.offset_le hu

/-- A source that goes on with something undecodable behind a text. With fewer than two characters
in the text there is no lexer. Else the tokens of the text get out which end two characters before
its end, and the next call gives the error. The error stands at the end of the text. -/
theorem ofFeed_undecodable (text : String) (feed after : Feed) (bad : Bytes)
    (settings : Settings.Scanning) (h : feed.Delivers (Utf8.encode text.toList ++ bad) after)
    (hb : Feed.Undecodable bad after) :
    ∃ fault, Feed.Blames bad after fault ∧
      let error : ReadError := ⟨Position.start.advanceOver text.toList, fault⟩
      (error.code.text = "E007" ↔ fault.kind = .invalidData) ∧
      (text.toList.length < 2 → (ofFeed feed settings).1 = .error error) ∧
      (2 ≤ text.toList.length → ∃ l, ofFeed feed settings = (.ok l, []) ∧
        l.drain.1 = (ofText text settings).drain.1.filter (getsOut .start text.toList) ∧
        l.drain.2.1 = some error ∧
        l.drain.2.2.1.position =
          Position.start.advanceOver (text.toList.take (text.toList.length - 2))) := by
  obtain ⟨rest, hreadings, hrest⟩ := h.readings
  obtain ⟨fault, last, hread, hblames⟩ := hrest.read_undecodable hb
  have hne : rest ≠ [] := by
    rintro rfl
    simp [Feed.read, Feed.byte] at hread
  rw [Feed.readings_of_ne_nil hne, hread] at hreadings
  refine ⟨fault, hblames, ?_, fun hlt => ?_, fun hle => ?_⟩
  · rw [ReadError.code]
    by_cases hk : fault.kind = .invalidData
    · simp [hk, Log.Code.badEncoding]
    · simp [hk, Log.Code.readFailed]
  · obtain ⟨c, hprime, hpos⟩ := prime_short hreadings hlt
    rw [ofFeed, hprime]
    simp only [hpos]
  · obtain ⟨c, hprime, hshows, hpos⟩ := prime_faulty hreadings hle
    have hreads : (ofCursor c settings).Reads (some fault) .start text.toList :=
      ⟨rfl, rfl, hshows, hpos⟩
    obtain ⟨ts, hts⟩ := exists_segmentation settings.trivia .start text.toList
    have htext := (drain_of_segmentation hts (reads_ofText text settings) rfl).1
    refine ⟨ofCursor c settings, by rw [ofFeed, hprime], ?_⟩
    rw [htext]
    exact drain_of_faulty hts hreads rfl

theorem lead_no_character (c : Char) : ¬ String.utf8EncodeChar c <+: [0xC3] := by
  intro h
  obtain ⟨lead, tail, hc⟩ := List.exists_cons_of_ne_nil (String.utf8EncodeChar_ne_nil (c := c))
  rw [hc, List.cons_prefix_cons, List.prefix_nil] at h
  obtain ⟨rfl, rfl⟩ := h
  exact absurd (Utf8.sequence_encodeChar hc).1 (by decide)

theorem ofFeed_undecodable_timedOut :
    let late : Fault := ⟨.timedOut, "too late"⟩
    let feed : Feed := [.bytes [0x61, 0x2B], .fault ⟨.interrupted, "again"⟩,
      .bytes [0x20, 0x62, 0xC3], .fault late]
    feed.Delivers (Utf8.encode "a+ b".toList ++ [0xC3]) [.fault late] ∧
      Feed.Undecodable [0xC3] [.fault late] ∧
      ∃ l, ofFeed feed ⟨.strict, true, true⟩ = (.ok l, []) ∧
        l.drain.1 = (ofText "a+ b" ⟨.strict, true, true⟩).drain.1.filter
          (getsOut .start "a+ b".toList) ∧
        l.drain.2.1 = some ⟨Position.start.advanceOver "a+ b".toList, late⟩ ∧
        l.drain.2.2.1.position = Position.start.advanceOver ['a', '+'] := by
  intro late feed
  have he : Utf8.encode "a+ b".toList ++ [0xC3] = [0x61, 0x2B] ++ ([0x20, 0x62, 0xC3] ++ []) := by
    decide
  have hd : feed.Delivers (Utf8.encode "a+ b".toList ++ [0xC3]) [.fault late] := by
    rw [he]
    exact .fill (by simp) (.interrupted rfl (.fill (by simp) .done))
  have hu : Feed.Undecodable [0xC3] [.fault late] :=
    ⟨lead_no_character, .inr ⟨late, [], rfl, by decide⟩⟩
  obtain ⟨fault, hblames, -, -, hlong⟩ :=
    ofFeed_undecodable "a+ b" feed [.fault late] [0xC3] ⟨.strict, true, true⟩ hd hu
  obtain ⟨l, hl, htokens, herror, hpos⟩ := hlong (by decide)
  obtain rfl : fault = late := hblames.2 late 'é' rfl ⟨[0xA9], by decide⟩
  exact ⟨hd, hu, l, hl, htokens, herror, hpos⟩

end Lexer
end TokenDump
