import TokenDump.Proofs.Buffering
import TokenDump.Proofs.Stability
import TokenDump.Proofs.Undecodable

/-! # Reports of the end

A feed reports the end of the input once, and may go on behind it. The report is met by the
lookahead; passing the last character takes one more reading. Text in that reading is never shown,
but a fault there is met, and takes with it the token that the last character is part of. -/
namespace TokenDump

open Cursor

namespace Feed

variable {feed after : Feed} {cause : Fault}

theorem head?_readings : (readings feed).head? = some (.fault cause) ↔
    (read feed).1 = .fault cause := by
  by_cases hne : feed = []
  · subst hne
    simp [readings_nil, read, byte]
  · simp [readings_of_ne_nil hne]

theorem Delivers.readings_end (h : Delivers feed [] (.bytes [] :: after)) :
    Feed.readings feed = .finish :: Feed.readings after := by
  have hread : Feed.read feed = (.finish, after) := by
    rw [Feed.read, h.byte_nil, Feed.byte]
  have hne : feed ≠ [] := by
    rintro rfl
    cases h
  rw [readings_of_ne_nil hne, hread]

end Feed

namespace Cursor

/-- The cursor is on the first character of a text, the end is reported behind the text, and the
fault stands behind the report. -/
inductive Late (fault : Fault) : Cursor → List Char → Prop
  | ahead {a b : Char} {rest : List Char} {more : List Reading} {position : Position} :
      Late fault ⟨rest.map .char ++ .finish :: .fault fault :: more, some a, some b, position, false⟩
        (a :: b :: rest)
  | last {a : Char} {more : List Reading} {position : Position} :
      Late fault ⟨.fault fault :: more, some a, none, position, false⟩ [a]

variable {feed : Feed} {text text' rest : List Char} {fault : Fault} {c d : Cursor}
  {more : List Reading} {a : Char}

theorem prime_reported (h : feed.readings = text.map .char ++ .finish :: more)
    (hm : text = [] ∨ ∀ cause, more.head? ≠ some (.fault cause)) :
    ∃ c, (Cursor.unprimed feed).prime = (.ok (), c) ∧ c.Shows none text ∧ c.position = .start := by
  unfold Cursor.unprimed
  rw [h]
  match text with
  | [] => exact ⟨_, rfl, .empty rfl, rfl⟩
  | [a] => exact ⟨_, rfl, .last rfl (hm.resolve_left (by simp)), rfl⟩
  | a :: b :: text =>
    exact ⟨_, rfl, .ahead (.inr ⟨more, rfl, hm.resolve_left (by simp)⟩), rfl⟩

theorem prime_late (h : feed.readings = text.map .char ++ .finish :: .fault fault :: more)
    (hne : text ≠ []) :
    ∃ c, (Cursor.unprimed feed).prime = (.ok (), c) ∧ c.Late fault text ∧ c.position = .start := by
  unfold Cursor.unprimed
  rw [h]
  match text with
  | [] => exact absurd rfl hne
  | [a] => exact ⟨_, rfl, .last, rfl⟩
  | a :: b :: text => exact ⟨_, rfl, .ahead, rfl⟩

theorem Late.ne_nil (h : c.Late fault text) : text ≠ [] := by
  cases h <;> simp

theorem Late.sight (h : c.Late fault text) (hd : d.Shows none text)
    (hp : c.position = d.position) : Lexer.SameSight c d := by
  refine ⟨?_, ?_, hp⟩
  · cases h with
    | ahead => exact hd.current.symm
    | last => exact hd.current.symm
  · cases h with
    | ahead => exact hd.lookahead.symm
    | last => exact hd.lookahead.symm

theorem Late.advance {b : Char} (h : c.Late fault (a :: b :: rest)) :
    c.advance.1 = .ok (some a) ∧ c.advance.2.Late fault (b :: rest) ∧
      c.advance.2.position = c.position.advance a := by
  cases h with
  | ahead => cases rest with
    | nil => exact ⟨rfl, .last, rfl⟩
    | cons d rest => exact ⟨rfl, .ahead, rfl⟩

theorem Late.advance_last (h : c.Late fault [a]) : c.advance.1 = .error fault ∧
    c.advance.2.readPosition = c.position.advance a := by
  cases h with
  | last => exact ⟨rfl, rfl⟩

theorem StopsAt.head_ne_char (h : StopsAt none more) : more.head? ≠ some (.char a) := by
  rcases h with rfl | ⟨behind, rfl, -⟩ <;> simp

theorem chars_unique {s t : List Char} {x y : List Reading}
    (hx : ∀ a, x.head? ≠ some (.char a)) (hy : ∀ a, y.head? ≠ some (.char a))
    (h : s.map Reading.char ++ x = t.map .char ++ y) : s = t := by
  induction s generalizing t with
  | nil => cases t with
    | nil => rfl
    | cons b t => exact absurd (congrArg List.head? h) (hx b)
  | cons a s ih => cases t with
    | nil => exact absurd (congrArg List.head? h).symm (hy a)
    | cons b t =>
      obtain ⟨hab, hst⟩ := List.cons.inj h
      rw [Reading.char.inj hab, ih hst]

theorem Shows.unique (h : c.Shows none text) (h' : c.Shows none text') : text = text' := by
  cases h with
  | @ahead a b rest pending position behind =>
    generalize hpending : rest.map Reading.char ++ pending = whole at h'
    cases h' with
    | ahead behind' =>
      rw [chars_unique (fun _ => behind.head_ne_char) (fun _ => behind'.head_ne_char) hpending]
  | last => cases h' with
    | last => rfl
  | empty => cases h' with
    | empty => rfl

end Cursor

namespace Lexer

open Scan

/-- The first progress is late on the text that the second one shows, which ends at `stop`. -/
structure InStep (fault : Fault) (stop : Position) (p q : Progress) : Prop where
  late : ∃ text, p.cursor.Late fault text ∧ q.cursor.Shows none text ∧
    p.cursor.position.advanceOver text = stop
  position : p.cursor.position = q.cursor.position
  comments : p.comments = q.comments

/-- The lexer goes on at `p` in the text, late for the fault behind it. -/
structure ReadsLate (l : Lexer) (fault : Fault) (p : Position) (text : List Char) : Prop where
  failure : l.failure = none
  isDone : l.isDone = false
  late : l.cursor.Late fault text
  position : l.position = p

variable {fault : Fault} {stop p : Position} {l : Lexer} {taken rest text : List Char}
  {t : Located Token} {ts : List (Located Token)} {n : Nat} {trivia : Trivia}

/-- A progress that is late does what one on the text alone does, up to where that one is behind
the last character. -/
theorem paired_inStep (fault : Fault) (stop : Position) : Paired (InStep fault stop)
    (fun cause p => cause = fault ∧ p.cursor.readPosition = stop)
    (fun q => q.cursor.current = none) where
  stable := by
    refine ⟨fun q hq => ?_, fun _ hq => hq⟩
    simp [Cursor.advance, hq]
  sight := by
    rintro p q ⟨⟨text, hlate, hshows, -⟩, hpos, -⟩
    exact hlate.sight hshows hpos
  enter := by
    rintro p q ⟨hlate, hpos, hcomments⟩
    exact ⟨hlate, hpos, congrArg (· + 1) hcomments⟩
  advance := by
    rintro ⟨c, n⟩ ⟨d, k⟩ ⟨⟨text, hlate, hshows, hstop⟩, hpos, hcomments⟩
    cases text with
    | nil => exact absurd rfl hlate.ne_nil
    | cons a text =>
      obtain ⟨hresult, hshows', hpos'⟩ := hshows.advance (by simp)
      cases text with
      | nil =>
        obtain ⟨hfault, hread⟩ := hlate.advance_last
        simp only [move, hfault]
        exact .apart ⟨rfl, hread.trans hstop⟩ hshows'.current
      | cons b rest =>
        obtain ⟨hresult', hlate', hposition⟩ := hlate.advance
        simp only [move, hresult, hresult']
        refine .same ⟨⟨b :: rest, hlate', hshows', ?_⟩, ?_, hcomments⟩
        · rw [hposition]
          exact hstop
        · exact hposition.trans ((congrArg (·.advance a) hpos).trans hpos'.symm)

/-- A call gives the next token, unless that one ends with the text: then it gives the fault. -/
theorem ReadsLate.next (h : l.ReadsLate fault p (taken ++ rest))
    (hp : (scanToken l.settings.trivia).Passes t p taken rest n) :
    (rest ≠ [] ∧ l.next.result = .ok t ∧ (t.value.isEof = false →
      l.next.lexer.ReadsLate fault (p.advanceOver taken) rest) ∧
      l.next.lexer.settings = l.settings) ∨
    rest = [] ∧ l.next.result = .error ⟨p.advanceOver (taken ++ rest), fault⟩ := by
  let calm : Progress := ⟨⟨((taken ++ rest).drop 2).map .char, (taken ++ rest)[0]?,
    (taken ++ rest)[1]?, p, false⟩, l.tally.comments⟩
  have hcalm : calm.cursor.Shows none (taken ++ rest) :=
    Holds.shows ⟨⟨0, by simp [calm]⟩, rfl, rfl, rfl⟩
  have hin : InStep fault (p.advanceOver (taken ++ rest)) ⟨l.cursor, l.tally.comments⟩ calm :=
    ⟨⟨_, h.late, hcalm, congrArg (fun q : Position => q.advanceOver _) h.position⟩, h.position, rfl⟩
  have halike := (parallel_scanToken (paired_inStep _ _) l.settings.trivia).alike _ _ hin
  obtain ⟨hmoved, -⟩ := hp none calm hcalm rfl
  rw [next_of_open h.failure h.isDone]
  generalize scanToken l.settings.trivia calm = s at halike hmoved
  generalize scanToken l.settings.trivia ⟨l.cursor, l.tally.comments⟩ = r at halike ⊢
  obtain ⟨result, q⟩ := s
  cases hmoved with
  | stopped before hfault => simp at hfault
  | done hshows hpos =>
    cases halike with
    | @same _ q' _ inStep =>
      obtain ⟨⟨text, hlate, hshows', -⟩, hsame, -⟩ := inStep
      obtain rfl := hshows.unique hshows'
      refine .inl ⟨hlate.ne_nil, rfl, fun ht => ?_, ?_⟩
      · simp only [record_lexer]
        exact ⟨h.failure, by simp [passed, h.isDone, ht], hlate, hsame.trans hpos⟩
      · simp only [record_lexer]
        rfl
    | apart stopped past =>
      obtain ⟨rfl, hread⟩ := stopped
      refine .inr ⟨?_, by simp only [hread]⟩
      have hnone : rest.head? = none := hshows.current.symm.trans past
      exact List.head?_eq_none_iff.mp hnone

/-- Whether a token ends before `stop`. -/
def endsBefore (stop : Position) (t : Located Token) : Bool :=
  decide (t.span.stop.offset < stop.offset)

theorem drain_of_late (h : Segmentation trivia p text ts) (hl : l.ReadsLate fault p text)
    (hs : l.settings.trivia = trivia) :
    l.drain.1 = ts.filter (endsBefore (p.advanceOver text)) ∧
      l.drain.2.1 = some ⟨p.advanceOver text, fault⟩ := by
  induction h generalizing l with
  | @eof p gap n skipped =>
    subst hs
    rw [← List.append_nil gap] at hl
    rcases hl.next (passes_scanToken_eof skipped) with ⟨hne, -⟩ | ⟨-, hr⟩
    · exact absurd rfl hne
    · rw [drain_of_error hr, List.append_nil]
      simp [endsBefore, Span.point]
  | @token p gap lexeme rest n t ts skipped read more ih =>
    subst hs
    obtain ⟨n, hp⟩ := passes_scanToken skipped read
    have hend : (p.advanceOver (gap ++ lexeme ++ rest)).offset =
        (p.advanceOver (gap ++ lexeme)).offset + Utf8.size rest := by
      rw [Position.advanceOver_append p (gap ++ lexeme), Position.offset_advanceOver]
    rcases hl.next hp with ⟨hne, hr, hnext, hset⟩ | ⟨rfl, hr⟩
    · obtain ⟨htokens, herror⟩ := ih (hnext read.isEof) (by rw [hset])
      have hkeep : endsBefore (p.advanceOver (gap ++ lexeme ++ rest))
          ⟨t, p.advanceOver gap, p.advanceOver (gap ++ lexeme)⟩ = true := by
        have hpos := Utf8.size_pos hne
        rw [endsBefore, hend]
        simpa using hpos
      rw [drain_of_ok hr read.isEof, List.filter_cons_of_pos hkeep, htokens, herror,
        Position.advanceOver_append p (gap ++ lexeme)]
      exact ⟨rfl, rfl⟩
    · rw [drain_of_error hr]
      refine ⟨(List.filter_eq_nil_iff.mpr fun u hu => ?_).symm, rfl⟩
      have hle : (p.advanceOver (gap ++ lexeme)).offset ≤ u.span.stop.offset := by
        rcases List.mem_cons.mp hu with rfl | hu
        · exact Nat.le_refl _
        · exact more.offset_le hu
      rw [endsBefore, hend, decide_eq_true_iff]
      simp only [Utf8.size]
      omega

/-- A feed that reports the end behind a text. If no fault follows at once, the lexer is the one on
the text, whatever the feed goes on with. If one does, the tokens of the text get out that end before
the text does, and the next call gives the error; only an empty text is safe from that. -/
theorem ofFeed_reported (text : String) (feed after : Feed) (settings : Settings.Scanning)
    (h : feed.Delivers (Utf8.encode text.toList) (.bytes [] :: after)) :
    ∃ l, ofFeed feed settings = (.ok l, []) ∧
      ((text = "" ∨ ∀ cause, (Feed.read after).1 ≠ .fault cause) →
        SameScan l (ofText text settings) ∧ l.drain.1 = (ofText text settings).drain.1 ∧
          l.drain.2.1 = none) ∧
      ∀ cause, text ≠ "" → (Feed.read after).1 = .fault cause →
        let stop := Position.start.advanceOver text.toList
        l.drain.1 = (ofText text settings).drain.1.filter (endsBefore stop) ∧
          l.drain.2.1 = some ⟨stop, cause⟩ := by
  rw [← List.append_nil (Utf8.encode text.toList)] at h
  obtain ⟨rest, hreadings, hrest⟩ := h.readings
  rw [hrest.readings_end] at hreadings
  obtain ⟨ts, hts⟩ := exists_segmentation settings.trivia .start text.toList
  have htext := drain_of_segmentation hts (reads_ofText text settings) rfl
  by_cases hcalm : text.toList = [] ∨ ∀ cause, (Feed.readings after).head? ≠ some (.fault cause)
  · obtain ⟨c, hprime, hshows, hpos⟩ := prime_reported hreadings hcalm
    have hagree : Agree (ofCursor c settings) (ofText text settings) :=
      ⟨rfl, hpos, rfl, text.toList, hshows, (holds_ofText _).shows⟩
    have hdrain := drain_of_segmentation (l := ofCursor c settings) hts
      ⟨rfl, rfl, hshows, hpos⟩ rfl
    refine ⟨ofCursor c settings, by rw [ofFeed, hprime], fun _ => ?_, fun cause hne hfault => ?_⟩
    · exact ⟨hagree.sameScan, hdrain.1.trans htext.1.symm, hdrain.2⟩
    · rcases hcalm with hnil | hnone
      · exact absurd (String.toList_eq_nil_iff.mp hnil) hne
      · exact absurd (Feed.head?_readings.mpr hfault) (hnone cause)
  · obtain ⟨hne, hfault⟩ := not_or.mp hcalm
    obtain ⟨cause, hhead⟩ : ∃ cause, (Feed.readings after).head? = some (.fault cause) := by
      simpa using hfault
    obtain ⟨more, hmore⟩ := List.head?_eq_some_iff.mp hhead
    rw [hmore] at hreadings
    obtain ⟨c, hprime, hlate, hpos⟩ := prime_late hreadings hne
    refine ⟨ofCursor c settings, by rw [ofFeed, hprime], fun hor => ?_, fun other _ hread => ?_⟩
    · rcases hor with hnil | hnone
      · exact absurd (String.toList_eq_nil_iff.mpr hnil) hne
      · exact absurd (Feed.head?_readings.mp hhead) (hnone cause)
    · obtain rfl : cause = other := by
        have hother := Feed.head?_readings.mpr hread
        rw [hhead] at hother
        simpa using hother
      rw [htext.1]
      exact drain_of_late hts ⟨rfl, rfl, hlate, hpos⟩ rfl

/-- The last token is lost, since the text ends with it. -/
theorem ofFeed_reported_timedOut :
    let late : Fault := ⟨.timedOut, "too late"⟩
    let feed : Feed := [.bytes [0x61, 0x2B], .fault ⟨.interrupted, "again"⟩, .bytes [0xC3, 0xA9],
      .bytes [], .fault ⟨.interrupted, "again"⟩, .fault late, .bytes [0x62]]
    feed.Delivers (Utf8.encode "a+é".toList)
        [.bytes [], .fault ⟨.interrupted, "again"⟩, .fault late, .bytes [0x62]] ∧
      ∃ l, ofFeed feed ⟨.compatible, true, true⟩ = (.ok l, []) ∧
        l.drain.1 = (ofText "a+é" ⟨.compatible, true, true⟩).drain.1.filter
          (endsBefore ⟨4, 1, 4⟩) ∧
        l.drain.2.1 = some ⟨⟨4, 1, 4⟩, late⟩ := by
  intro late feed
  have he : Utf8.encode "a+é".toList = [0x61, 0x2B] ++ ([0xC3, 0xA9] ++ []) := by decide
  have hd : feed.Delivers (Utf8.encode "a+é".toList)
      [.bytes [], .fault ⟨.interrupted, "again"⟩, .fault late, .bytes [0x62]] := by
    rw [he]
    exact .fill (by simp) (.interrupted rfl (.fill (by simp) .done))
  obtain ⟨l, hl, -, hfault⟩ := ofFeed_reported "a+é" feed _ ⟨.compatible, true, true⟩ hd
  have hread : (Feed.read [.fault ⟨.interrupted, "again"⟩, .fault late, .bytes [0x62]]).1 =
      .fault late := by decide
  obtain ⟨htokens, herror⟩ := hfault late (by decide) hread
  exact ⟨hd, l, hl, htokens, herror⟩

/-- A fault behind a reported end becomes a read error, although the text was complete. -/
theorem exists_ofFeed_reported_error :
    let feed : Feed := [.bytes [0x61], .bytes [], .fault ⟨.other, "x"⟩]
    feed.Delivers (Utf8.encode "a".toList) [.bytes [], .fault ⟨.other, "x"⟩] ∧
      ∃ l, ofFeed feed ⟨.strict, true, true⟩ = (.ok l, []) ∧
        l.drain.2.1 = some ⟨⟨1, 1, 2⟩, ⟨.other, "x"⟩⟩ := by
  intro feed
  have he : Utf8.encode "a".toList = [0x61] ++ [] := by decide
  let c : Cursor := ⟨[.fault ⟨.other, "x"⟩], some 'a', none, .start, false⟩
  have hfeed : ofFeed feed ⟨.strict, true, true⟩ = (.ok (ofCursor c ⟨.strict, true, true⟩), []) := by
    decide +kernel
  have hnext : (ofCursor c ⟨.strict, true, true⟩).next.result =
      .error ⟨⟨1, 1, 2⟩, ⟨.other, "x"⟩⟩ := by decide +kernel
  refine ⟨he ▸ .fill (by simp) .done, _, hfeed, ?_⟩
  rw [drain_of_error hnext]

end Lexer
end TokenDump
