import TokenDump.Proofs.Delivery
import TokenDump.Source.Cursor

/-! # Trying again

A feed that fails between the characters of a text can be asked again. Nothing of the text is lost:
a cursor that primes until it succeeds and then advances until the end delivers the text, and a
failed attempt changes nothing but what is pending. -/
namespace TokenDump

namespace Feed

/-- A text in fills that are not empty, with faults of any kind between its characters, before the
first and after the last among them. -/
inductive Faltering : Feed → List Char → Prop
  | steady {feed : Feed} {text : List Char} (chunks : Chunked feed (Utf8.encode text)) :
      Faltering feed text
  | fault {feed rest : Feed} {text more : List Char} (cause : Fault)
      (chunks : Chunked feed (Utf8.encode text)) (later : Faltering rest more) :
      Faltering (feed ++ .fault cause :: rest) (text ++ more)

end Feed

/-- The characters of a text among faults, and nothing but ends behind it. -/
inductive Falters : List Reading → List Char → Prop
  | ends (n : Nat) : Falters (List.replicate n .finish) []
  | char {rs : List Reading} {text : List Char} (c : Char) (more : Falters rs text) :
      Falters (.char c :: rs) (c :: text)
  | fault {rs : List Reading} {text : List Char} (cause : Fault) (more : Falters rs text) :
      Falters (.fault cause :: rs) text

/-- The characters that are still to be read. -/
def Reading.chars (rs : List Reading) : List Char :=
  rs.filterMap fun
    | .char c => some c
    | _ => none

variable {rs : List Reading} {text more : List Char}

theorem Falters.append (h : Falters rs more) (text : List Char) :
    Falters (text.map .char ++ rs) (text ++ more) := by
  induction text with
  | nil => exact h
  | cons c text ih => exact .char c ih

theorem Falters.chars (h : Falters rs text) : Reading.chars rs = text := by
  induction h with
  | ends n => simp [Reading.chars, List.filterMap_replicate_of_none]
  | char c more ih => rw [← ih]; rfl
  | fault cause more ih => rw [← ih]; rfl

theorem Falters.eq_nil (h : Falters [] text) : text = [] := h.chars.symm

/-- A feed that falters is read as the characters of the text with faults in between. An interruption
is passed over together with the reading behind it. -/
theorem Feed.Faltering.falters {feed : Feed} (h : feed.Faltering text) :
    Falters feed.readings text := by
  induction h with
  | @steady feed text chunks =>
    have hd := chunks.delivers
    rw [← List.append_nil (Utf8.encode text)] at hd
    obtain ⟨rest, hreadings, hrest⟩ := hd.readings
    obtain ⟨n, hn⟩ := hrest.readings_nil
    rw [hreadings, hn]
    simpa using (Falters.ends n).append text
  | @fault feed after text more cause chunks later ih =>
    have hd := chunks.delivers_append (.fault cause :: after)
    rw [← List.append_nil (Utf8.encode text)] at hd
    obtain ⟨rest, hreadings, hrest⟩ := hd.readings
    have hne : rest ≠ [] := by
      rintro rfl
      cases hrest
    rw [hreadings, Feed.readings_of_ne_nil hne]
    refine Falters.append ?_ text
    by_cases hk : cause.kind = .interrupted
    · have hread : Feed.read rest = Feed.read after := by
        rw [Feed.read, Feed.read, hrest.byte_nil, Feed.byte_interrupted hk]
      rw [hread]
      by_cases hafter : after = []
      · subst hafter
        rw [Feed.readings_nil] at ih
        obtain rfl := ih.eq_nil
        simpa [Feed.read, Feed.byte, Feed.readings_nil] using Falters.ends 1
      · rwa [← Feed.readings_of_ne_nil hafter]
    · have hread : Feed.read rest = (.fault cause, after) := by
        rw [Feed.read, hrest.byte_nil, Feed.byte, if_neg hk]
      rw [hread]
      exact .fault cause ih

namespace Cursor

/-- An attempt that failed: the cursor before and after it. -/
structure Failure where
  before : Cursor
  cause : Fault
  after : Cursor

/-- Attempts until there is nothing more to try: those that failed, and the cursor that the last one
left. -/
structure Attempts where
  failures : List Failure
  last : Cursor

variable {c d : Cursor} {cause : Fault} {rest : List Reading} {r : Except Fault (Option Char)}

/-- A failed step changes nothing but what is pending. -/
theorem advance_error (h : c.advance = (.error cause, d)) :
    d = { c with pending := d.pending } := by
  obtain ⟨pending, current, lookahead, position, isClosed⟩ := c
  cases current with
  | none => simp [advance] at h
  | some ch =>
    cases pending with
    | nil => simp [advance, read] at h
    | cons reading rest =>
      cases reading with
      | char _ | finish => simp [advance, read] at h
      | fault _ =>
        obtain ⟨-, rfl⟩ := Prod.mk.inj h
        rfl

theorem length_prime_lt (h : c.prime = (.error cause, d)) :
    d.pending.length < c.pending.length := by
  obtain ⟨pending, current, lookahead, position, isClosed⟩ := c
  match current, pending with
  | some _, [] | some _, .char _ :: _ | some _, .finish :: _ | none, [] | none, .finish :: _
  | none, [.char _] | none, .char _ :: .char _ :: _ | none, .char _ :: .finish :: _ =>
    simp [prime, read] at h
  | some _, .fault _ :: _ | none, .fault _ :: _ | none, .char _ :: .fault _ :: _ =>
    simp only [prime, read, Prod.mk.injEq] at h
    obtain ⟨-, rfl⟩ := h
    simp only [List.length_cons]
    omega

theorem remaining_advance_lt_of_ne (h : c.advance = (r, d)) (hr : r ≠ .ok none) :
    d.remaining < c.remaining := by
  have hc : c.current ≠ none := by
    intro hc
    rw [advance, hc] at h
    exact hr (Prod.mk.inj h).1.symm
  have hlt := remaining_advance_lt hc
  rwa [h] at hlt

/-- Primes until it succeeds. -/
def primeUntilDone (c : Cursor) : Attempts :=
  match _h : c.prime with
  | (.ok (), d) => ⟨[], d⟩
  | (.error cause, d) =>
    ⟨⟨c, cause, d⟩ :: d.primeUntilDone.failures, d.primeUntilDone.last⟩
termination_by c.pending.length
decreasing_by all_goals exact length_prime_lt _h

/-- Advances until the end is reached, and gives what was delivered. -/
def advanceToEnd (c : Cursor) : List Char × Attempts :=
  match _h : c.advance with
  | (.ok none, d) => ([], ⟨[], d⟩)
  | (.ok (some ch), d) => (ch :: d.advanceToEnd.1, d.advanceToEnd.2)
  | (.error cause, d) =>
    (d.advanceToEnd.1,
      ⟨⟨c, cause, d⟩ :: d.advanceToEnd.2.failures, d.advanceToEnd.2.last⟩)
termination_by c.remaining
decreasing_by all_goals exact remaining_advance_lt_of_ne _h (by simp)

/-- The characters that the cursor has decoded and not passed. -/
def window (c : Cursor) : List Char := c.current.toList ++ c.lookahead.toList

/-- The cursor is on the first character of a text whose rest falters. -/
structure Faces (c : Cursor) (text : List Char) : Prop where
  current : c.current = text[0]?
  lookahead : c.lookahead = text[1]?
  pending : Falters c.pending (text.drop 2)

/-- The cursor has no second character yet; the text is what it has decoded and what is pending. -/
structure Awaits (c : Cursor) (text : List Char) : Prop where
  position : c.position = .start
  lookahead : c.lookahead = none
  pending : ∃ rest, text = c.current.toList ++ rest ∧ Falters c.pending rest

/-- Reading meets a fault, or takes what is next in the text. -/
theorem read_of_falters (h : Falters c.pending text) : ∃ rest,
    (∃ cause, c.read = (.error cause, { c with pending := rest }) ∧ Falters rest text) ∨
      c.read = (.ok text.head?, { c with pending := rest }) ∧ Falters rest text.tail := by
  obtain ⟨pending, current, lookahead, position, isClosed⟩ := c
  cases h with
  | ends n =>
    cases n with
    | zero => exact ⟨[], .inr ⟨rfl, .ends 0⟩⟩
    | succ n => exact ⟨_, .inr ⟨rfl, .ends n⟩⟩
  | char ch more => exact ⟨_, .inr ⟨rfl, more⟩⟩
  | fault cause more => exact ⟨_, .inl ⟨cause, rfl, more⟩⟩

theorem Faces.advance {ch : Char} (h : c.Faces (ch :: text)) :
    (∃ cause d, c.advance = (.error cause, d) ∧ d.Faces (ch :: text) ∧ d.position = c.position) ∨
      ∃ d, c.advance = (.ok (some ch), d) ∧ d.Faces text ∧
        d.position = c.position.advance ch := by
  have hcurrent : c.current = some ch := h.current
  have hlookahead : c.lookahead = text[0]? := h.lookahead
  have hpending : Falters c.pending (text.drop 1) := h.pending
  obtain ⟨rest, ⟨cause, hread, hrest⟩ | ⟨hread, hrest⟩⟩ := read_of_falters hpending
  · refine .inl ⟨cause, { c with pending := rest }, ?_, ⟨hcurrent, hlookahead, hrest⟩, rfl⟩
    simp only [Cursor.advance, hcurrent, hread]
  · refine .inr ⟨{ c with
      pending := rest, position := c.position.advance ch, current := c.lookahead
      lookahead := (text.drop 1).head? }, ?_, ⟨hlookahead, ?_, ?_⟩, rfl⟩
    · simp only [Cursor.advance, hcurrent, hread]
    · rw [List.head?_drop]
    · rwa [List.tail_drop] at hrest

theorem Faces.advance_nil (h : c.Faces []) : c.advance = (.ok none, c) := by
  have hcurrent : c.current = none := h.current
  rw [Cursor.advance, hcurrent]

/-- With one character decoded only the second one is left to read. -/
theorem prime_of_read {ch : Char} (hc : c.current = none) (hr : c.read = (.ok (some ch), d)) :
    c.prime = { d with current := some ch }.prime := by
  simp only [prime, hc, hr]

theorem Awaits.prime_some {ch : Char} (h : c.Awaits text) (hc : c.current = some ch) :
    (∃ cause d, c.prime = (.error cause, d) ∧ d.Awaits text ∧ d.current = some ch) ∨
      ∃ d, c.prime = (.ok (), d) ∧ d.Faces text ∧ d.position = .start := by
  obtain ⟨pending, current, lookahead, position, isClosed⟩ := c
  obtain ⟨hposition, hlookahead, more, rfl, hmore⟩ := h
  simp only at hc hposition hlookahead hmore
  subst hc hposition hlookahead
  obtain ⟨rest, ⟨cause, hread, hrest⟩ | ⟨hread, hrest⟩⟩ :=
    read_of_falters (c := ⟨pending, some ch, none, .start, isClosed⟩) hmore
  · refine .inl ⟨cause, ⟨rest, some ch, none, .start, isClosed⟩, ?_, ⟨rfl, rfl, more, rfl, hrest⟩,
      rfl⟩
    simp only [Cursor.prime, hread]
  · refine .inr ⟨⟨rest, some ch, more.head?, .start, isClosed⟩, ?_, ⟨rfl, ?_, ?_⟩, rfl⟩
    · simp only [Cursor.prime, hread]
    · exact List.head?_eq_getElem?
    · simpa using hrest

/-- Priming meets a fault and keeps what it had decoded before, or puts the cursor on the text. -/
theorem Awaits.prime (h : c.Awaits text) :
    (∃ cause d, c.prime = (.error cause, d) ∧ d.Awaits text ∧ c.window <+: d.window) ∨
      ∃ d, c.prime = (.ok (), d) ∧ d.Faces text ∧ d.position = .start := by
  cases hc : c.current with
  | some ch =>
    obtain ⟨cause, d, hprime, hd, hcurrent⟩ | ⟨d, hprime, hd⟩ := h.prime_some hc
    · have hwindow : c.window = d.window := by
        rw [window, window, hc, hcurrent, h.lookahead, hd.lookahead]
      exact .inl ⟨cause, d, hprime, hd, hwindow ▸ List.prefix_refl _⟩
    · exact .inr ⟨d, hprime, hd⟩
  | none =>
    have hwindow : c.window = [] := by rw [window, hc, h.lookahead]; rfl
    obtain ⟨hposition, hlookahead, more, htext, hmore⟩ := h
    obtain rfl : text = more := by rw [htext, hc]; rfl
    obtain ⟨rest, ⟨cause, hread, hrest⟩ | ⟨hread, hrest⟩⟩ := read_of_falters hmore
    · refine .inl ⟨cause, { c with pending := rest }, ?_,
        ⟨hposition, hlookahead, text, by rw [hc]; rfl, hrest⟩, ?_⟩
      · simp only [Cursor.prime, hc, hread]
      · rw [hwindow]
        exact List.nil_prefix
    · cases text with
      | nil =>
        refine .inr ⟨{ c with pending := rest }, ?_, ⟨hc, hlookahead, hrest⟩, hposition⟩
        simp only [Cursor.prime, hc, hread, List.head?_nil]
      | cons ch text =>
        rw [prime_of_read hc hread]
        obtain ⟨cause, d, hprime, hd, -⟩ | ⟨d, hprime, hd⟩ := prime_some
          (c := { c with pending := rest, current := some ch })
          ⟨hposition, hlookahead, text, rfl, hrest⟩ rfl
        · refine .inl ⟨cause, d, hprime, hd, ?_⟩
          rw [hwindow]
          exact List.nil_prefix
        · exact .inr ⟨d, hprime, hd⟩

/-- What a failed attempt at priming leaves: the characters it had and those it read, with the
position of the next one, which is the first that is still pending. -/
structure Kept (text : List Char) (f : Failure) : Prop where
  grows : f.before.window <+: f.after.window
  missing : text = f.after.window ++ Reading.chars f.after.pending
  position : f.after.readPosition = Position.start.advanceOver f.after.window

theorem Awaits.kept (hd : d.Awaits text) (hw : c.window <+: d.window) :
    Kept text ⟨c, cause, d⟩ := by
  obtain ⟨hposition, hlookahead, rest, htext, hrest⟩ := hd
  refine ⟨hw, ?_, ?_⟩
  · rw [hrest.chars, window, hlookahead, htext]
    simp
  · simp only [readPosition, window, hposition]

theorem Awaits.primeUntilDone (h : c.Awaits text) :
    c.primeUntilDone.last.Faces text ∧ c.primeUntilDone.last.position = .start ∧
      ∀ f ∈ c.primeUntilDone.failures,
        f.before.prime = (.error f.cause, f.after) ∧ Kept text f := by
  fun_induction Cursor.primeUntilDone c with
  | case1 c d hd =>
    obtain ⟨cause, e, hprime, -⟩ | ⟨e, hprime, hfaces, hposition⟩ := h.prime
    · simp [hd] at hprime
    · obtain ⟨-, rfl⟩ := Prod.mk.inj (hprime.symm.trans hd)
      exact ⟨hfaces, hposition, by simp⟩
  | case2 c cause d hd ih =>
    obtain ⟨cause', e, hprime, hawaits, hwindow⟩ | ⟨e, hprime, -⟩ := h.prime
    · obtain ⟨hcause, rfl⟩ := Prod.mk.inj (hprime.symm.trans hd)
      obtain ⟨hfaces, hposition, hfailures⟩ := ih hawaits
      refine ⟨hfaces, hposition, fun f hf => ?_⟩
      rcases List.mem_cons.mp hf with rfl | hf
      · exact ⟨hd, hawaits.kept hwindow⟩
      · exact hfailures f hf
    · simp [hd] at hprime

theorem Faces.advanceToEnd (h : c.Faces text) :
    c.advanceToEnd.1 = text ∧ c.advanceToEnd.2.last.current = none ∧
      c.advanceToEnd.2.last.position = c.position.advanceOver text ∧
      ∀ f ∈ c.advanceToEnd.2.failures, f.before.advance = (.error f.cause, f.after) := by
  fun_induction Cursor.advanceToEnd c generalizing text with
  | case1 c d hd =>
    cases text with
    | nil =>
      obtain ⟨-, rfl⟩ := Prod.mk.inj (h.advance_nil.symm.trans hd)
      exact ⟨rfl, h.current, rfl, by simp⟩
    | cons ch text =>
      obtain ⟨cause, e, hadvance, -⟩ | ⟨e, hadvance, -⟩ := h.advance <;> simp [hd] at hadvance
  | case2 c ch d hd ih =>
    cases text with
    | nil =>
      have hadvance := h.advance_nil
      simp [hd] at hadvance
    | cons ch' text =>
      obtain ⟨cause, e, hadvance, -⟩ | ⟨e, hadvance, hfaces, hposition⟩ := h.advance
      · simp [hd] at hadvance
      · obtain ⟨hch, rfl⟩ := Prod.mk.inj (hadvance.symm.trans hd)
        obtain rfl : ch' = ch := by simpa using hch
        obtain ⟨htext, hcurrent, hlast, hfailures⟩ := ih hfaces
        exact ⟨by rw [htext], hcurrent, by rw [hlast, hposition]; rfl, hfailures⟩
  | case3 c cause d hd ih =>
    cases text with
    | nil =>
      have hadvance := h.advance_nil
      simp [hd] at hadvance
    | cons ch text =>
      obtain ⟨cause', e, hadvance, hfaces, hposition⟩ | ⟨e, hadvance, -⟩ := h.advance
      · obtain ⟨-, rfl⟩ := Prod.mk.inj (hadvance.symm.trans hd)
        obtain ⟨htext, hcurrent, hlast, hfailures⟩ := ih hfaces
        refine ⟨htext, hcurrent, by rw [hlast, hposition], fun f hf => ?_⟩
        rcases List.mem_cons.mp hf with rfl | hf
        · exact hd
        · exact hfailures f hf
      · simp [hd] at hadvance

theorem awaits_unprimed {feed : Feed} (h : feed.Faltering text) :
    (Cursor.unprimed feed).Awaits text :=
  ⟨rfl, rfl, text, rfl, h.falters⟩

/-- Priming until it succeeds and advancing until the end delivers the text of a feed that falters,
each character once and in order, and ends behind the text. A failed advance leaves the cursor as it
was. A failed priming keeps what was decoded, and the position of the next character to be read is
that of the first one still missing. -/
theorem delivered_of_faltering {feed : Feed} (h : feed.Faltering text) :
    let primed := (Cursor.unprimed feed).primeUntilDone
    let (delivered, passed) := primed.last.advanceToEnd
    delivered = text ∧ passed.last.current = none ∧
      passed.last.position = Position.start.advanceOver text ∧
      (∀ f ∈ passed.failures, f.before.advance = (.error f.cause, f.after) ∧
        f.after.current = f.before.current ∧ f.after.lookahead = f.before.lookahead ∧
        f.after.position = f.before.position ∧ f.after.readPosition = f.before.readPosition) ∧
      ∀ f ∈ primed.failures, f.before.prime = (.error f.cause, f.after) ∧ Kept text f := by
  obtain ⟨hfaces, hstart, hprimed⟩ := (awaits_unprimed h).primeUntilDone
  obtain ⟨htext, hcurrent, hposition, hpassed⟩ := hfaces.advanceToEnd
  refine ⟨htext, hcurrent, by rw [hposition, hstart], fun f hf => ?_, hprimed⟩
  have hadvance := hpassed f hf
  have hafter := advance_error hadvance
  refine ⟨hadvance, ?_, ?_, ?_, ?_⟩ <;> rw [hafter]
  rfl

theorem delivered_of_faltering_device :
    let late : Fault := ⟨.timedOut, "too late"⟩
    let again : Fault := ⟨.interrupted, "again"⟩
    let feed : Feed := [.fault late, .bytes [0x61, 0xC3], .bytes [0xA9], .fault again, .fault late,
      .bytes [0x62], .fault late]
    feed.Faltering ['a', 'é', 'b'] ∧
      ((Cursor.unprimed feed).primeUntilDone.last.advanceToEnd).1 = ['a', 'é', 'b'] := by
  intro late again feed
  have hnone : Feed.Chunked [] (Utf8.encode []) := .nil
  have hfirst : Feed.Chunked [.bytes [0x61, 0xC3], .bytes [0xA9]] (Utf8.encode ['a', 'é']) :=
    .cons (by simp) (.cons (by simp) .nil)
  have hsecond : Feed.Chunked [.bytes [0x62]] (Utf8.encode ['b']) := .cons (by simp) .nil
  have hfaltering : feed.Faltering ['a', 'é', 'b'] :=
    .fault late hnone <| .fault again hfirst <| .fault late hnone <| .fault late hsecond <|
      .steady hnone
  exact ⟨hfaltering, (delivered_of_faltering hfaltering).1⟩

end Cursor
end TokenDump
