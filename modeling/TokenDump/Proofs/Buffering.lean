import TokenDump.Proofs.Segmentation
import TokenDump.Proofs.Delivery

/-! # Buffering

However a feed hands out the bytes of a text, a cursor on the feed walks over the characters of the
text, and a lexer on the feed scans as one on the text does. -/
namespace TokenDump

open Cursor

theorem Cursor.prime_delivered {feed : Feed} {text : List Char}
    (h : feed.Delivers (Utf8.encode text) []) :
    ∃ c, (Cursor.unprimed feed).prime = (.ok (), c) ∧ c.Holds text ∧ c.position = .start := by
  rw [← List.append_nil (Utf8.encode text)] at h
  obtain ⟨rest, hreadings, hrest⟩ := h.readings
  obtain ⟨n, hn⟩ := hrest.readings_nil
  rw [hn] at hreadings
  unfold Cursor.unprimed
  rw [hreadings]
  match text with
  | [] => cases n with
    | zero => exact ⟨_, rfl, ⟨⟨0, rfl⟩, rfl, rfl, rfl⟩, rfl⟩
    | succ n => exact ⟨_, rfl, ⟨⟨n, rfl⟩, rfl, rfl, rfl⟩, rfl⟩
  | [a] => cases n with
    | zero => exact ⟨_, rfl, ⟨⟨0, rfl⟩, rfl, rfl, rfl⟩, rfl⟩
    | succ n => exact ⟨_, rfl, ⟨⟨n, rfl⟩, rfl, rfl, rfl⟩, rfl⟩
  | a :: b :: rest => exact ⟨_, rfl, ⟨⟨n, rfl⟩, rfl, rfl, rfl⟩, rfl⟩

namespace Lexer

def after (l : Lexer) (k : Nat) : Lexer := (fun l => l.next.lexer)^[k] l

/-- Every call of the two lexers gives the same result and the same notices, and leaves them at the
same position, with the same counts, done or not done alike. -/
def SameScan (l l' : Lexer) : Prop :=
  ∀ k, (l.after k).next.result = (l'.after k).next.result ∧
    (l.after k).next.notices = (l'.after k).next.notices ∧
    (l.after k).position = (l'.after k).position ∧
    (l.after k).tally = (l'.after k).tally ∧
    (l.after k).isDone = (l'.after k).isDone

def withCursor (l : Lexer) (c : Cursor) : Lexer := { l with cursor := c }

/-- Two lexers whose cursors show the same text at the same position, and that are else the same. -/
structure Agree (l l' : Lexer) : Prop where
  same : l' = l.withCursor l'.cursor
  position : l.position = l'.position
  failure : l.failure = none
  shown : ∃ text, l.cursor.Shows none text ∧ l'.cursor.Shows none text

variable {l l' : Lexer}

theorem record_withCursor (l : Lexer) (c : Cursor) (t : Located Token) :
    (l.withCursor c).record t = ((l.record t).1.withCursor c, (l.record t).2) := by
  unfold record withCursor
  cases l.settings.collectMetrics <;> simp only [Bool.false_eq_true, if_false, if_true] <;>
    split <;> try rfl
  all_goals split <;> rfl

theorem Agree.next (h : Agree l l') : l.next.result = l'.next.result ∧
    l.next.notices = l'.next.notices ∧ Agree l.next.lexer l'.next.lexer := by
  obtain ⟨c, rfl⟩ : ∃ c, l' = l.withCursor c := ⟨_, h.same⟩
  obtain ⟨text, hs, hs'⟩ := h.shown
  have hf : (l.withCursor c).failure = none := h.failure
  by_cases hd : l.isDone = true
  · have hd' : (l.withCursor c).isDone = true := hd
    rw [next_of_done h.failure hd, next_of_done hf hd']
    refine ⟨?_, rfl, h⟩
    simp only [eofHere, h.position]
  · rw [Bool.not_eq_true] at hd
    obtain ⟨taken, rest, t, n, rfl, hp⟩ := exists_passes l.settings.trivia l.position text
    have hl : l.Reads none l.position (taken ++ rest) := ⟨h.failure, hd, hs, rfl⟩
    have hl' : (l.withCursor c).Reads none l.position (taken ++ rest) :=
      ⟨hf, hd, hs', h.position.symm⟩
    obtain ⟨q, hq, hqpos, hcount, hnext⟩ := hl.next_ok hp (by simp)
    obtain ⟨q', hq', hqpos', hcount', hnext'⟩ := hl'.next_ok hp (by simp)
    have hpassed : (l.withCursor c).passed q' = (l.passed q).withCursor q'.cursor := by
      simp only [passed, withCursor, hcount, hcount']
    rw [hnext, hnext', hpassed, record_withCursor]
    refine ⟨rfl, rfl, rfl, ?_, ?_, rest, ?_, hq'⟩
    · exact (congrArg Cursor.position (record_cursor (l.passed q) t)).trans
        (hqpos.trans hqpos'.symm)
    · rw [record_lexer]
      exact h.failure
    · rw [record_cursor]
      exact hq

theorem Agree.after (h : Agree l l') (k : Nat) : Agree (l.after k) (l'.after k) := by
  induction k with
  | zero => exact h
  | succ k ih =>
    have hk (l : Lexer) : l.after (k + 1) = (l.after k).next.lexer :=
      Function.iterate_succ_apply' _ k l
    rw [hk, hk]
    exact ih.next.2.2

theorem Agree.sameScan (h : Agree l l') : SameScan l l' := by
  intro k
  have hk := h.after k
  obtain ⟨hr, hn, -⟩ := hk.next
  refine ⟨hr, hn, hk.position, ?_, ?_⟩
  · rw [hk.same]
    rfl
  · rw [hk.same]
    rfl

/-- A lexer on a feed that delivers a text is the lexer on the text, whatever the fills are and
where they are interrupted, and so are their cursors. -/
theorem ofFeed_sameScan (text : String) (feed : Feed) (settings : Settings.Scanning)
    (h : feed.Delivers (Utf8.encode text.toList) []) :
    ∃ l, ofFeed feed settings = (.ok l, []) ∧ SameScan l (ofText text settings) ∧
      l.drain.1 = (ofText text settings).drain.1 ∧ l.drain.2.1 = none ∧
      l.cursor.Walks text.toList ∧ (Cursor.ofText text.toList).Walks text.toList := by
  obtain ⟨c, hprime, hholds, hpos⟩ := prime_delivered h
  have hofText := holds_ofText text.toList
  have hagree : Agree (ofCursor c settings) (ofText text settings) :=
    ⟨rfl, hpos, rfl, text.toList, hholds.shows, hofText.shows⟩
  have hreads : (ofCursor c settings).Reads none .start text.toList :=
    ⟨rfl, rfl, hholds.shows, hpos⟩
  obtain ⟨ts, hts⟩ := exists_segmentation settings.trivia .start text.toList
  have hdrain := drain_of_segmentation hts hreads rfl
  have hdrain' := drain_of_segmentation hts (reads_ofText text settings) rfl
  refine ⟨ofCursor c settings, ?_, hagree.sameScan, ?_, hdrain.2, hholds.walks hpos,
    hofText.walks rfl⟩
  · rw [ofFeed, hprime]
  · rw [hdrain.1, hdrain'.1]

theorem ofFeed_sameScan_interrupted :
    let feed : Feed := [.fault ⟨.interrupted, "again"⟩, .bytes [0xC3],
      .fault ⟨.interrupted, "again"⟩, .bytes [0xA9, 0x3D]]
    feed.Delivers (Utf8.encode "é=".toList) [] ∧
      ∃ l, ofFeed feed ⟨.strict, true, true⟩ = (.ok l, []) ∧
        SameScan l (ofText "é=" ⟨.strict, true, true⟩) ∧
        l.drain.1 = (ofText "é=" ⟨.strict, true, true⟩).drain.1 ∧ l.drain.2.1 = none ∧
        l.cursor.Walks "é=".toList ∧ (Cursor.ofText "é=".toList).Walks "é=".toList := by
  intro feed
  have he : Utf8.encode "é=".toList = [0xC3] ++ ([0xA9, 0x3D] ++ []) := by decide
  have h : feed.Delivers (Utf8.encode "é=".toList) [] := by
    rw [he]
    exact .interrupted rfl (.fill (by simp) (.interrupted rfl (.fill (by simp) .done)))
  exact ⟨h, ofFeed_sameScan "é=" feed ⟨.strict, true, true⟩ h⟩

end Lexer
end TokenDump
