import TokenDump.Proofs.LogLines
import TokenDump.Proofs.Segmentation

/-! # Cutting messages

A message is cut to the longest beginning that fits into the limit. It is found as well by going
back in the bytes of the message, from the limit to the next place between characters. What is shown
of a message, as text and as JSON, is this beginning. -/
namespace TokenDump

namespace Utf8

/-- The last place between characters that is not behind this one, searched byte by byte; `none` if
the search goes beyond the start. -/
def boundaryBefore? (s : String) : Nat → Option Nat
  | 0 => if String.Pos.Raw.isValid s ⟨0⟩ then some 0 else none
  | n + 1 => if String.Pos.Raw.isValid s ⟨n + 1⟩ then some (n + 1) else boundaryBefore? s n

/-- The bytes of a text up to that place, if it has more than fit into the limit; `none` if there is
no such place, or a character would be split. -/
def cutBackwards? (limit : Nat) (s : String) : Option Bytes :=
  if s.utf8ByteSize ≤ limit then some (encode s.toList)
  else do
    let stop ← boundaryBefore? s limit
    if String.Pos.Raw.isValid s ⟨stop⟩ then some ((encode s.toList).take stop) else none

variable {limit n : Nat} {text start other : List Char} {s : String}

theorem utf8ByteSize_ofList (text : List Char) : (String.ofList text).utf8ByteSize = size text := by
  induction text with
  | nil => rfl
  | cons c text ih =>
    rw [String.ofList_cons, String.utf8ByteSize_append, String.utf8ByteSize_singleton, ih, size]

/-- Behind a beginning that is not the whole text there is a character. -/
theorem eq_or_exists_char (h : start <+: text) : start = text ∨ ∃ c, start ++ [c] <+: text := by
  obtain ⟨rest, rfl⟩ := h
  cases rest with
  | nil => exact .inl (List.append_nil start).symm
  | cons c rest => exact .inr ⟨c, rest, by rw [List.append_assoc, List.singleton_append]⟩

theorem encode_prefix (h : start <+: text) : encode start = (encode text).take (size start) := by
  obtain ⟨rest, rfl⟩ := h
  rw [← length_encode, encode, encode, List.flatMap_append, List.take_left]

/-- The places between characters are those behind the beginnings of the text. -/
theorem isValid_iff_size : String.Pos.Raw.isValid s ⟨n⟩ = true ↔
    ∃ start, start <+: s.toList ∧ size start = n := by
  rw [String.Pos.Raw.isValid_eq_true_iff, String.Pos.Raw.isValid_iff_exists_take_toList]
  constructor
  · rintro ⟨i, hi⟩
    exact ⟨s.toList.take i, List.take_prefix i _, by rw [← utf8ByteSize_ofList, ← hi]⟩
  · rintro ⟨start, hstart, rfl⟩
    refine ⟨start.length, ?_⟩
    rw [← List.prefix_iff_eq_take.mp hstart, utf8ByteSize_ofList]

/-- The search stops behind the beginning with the most bytes. -/
theorem boundaryBefore?_eq (h : start <+: s.toList) (hsize : size start ≤ limit)
    (hmost : ∀ other, other <+: s.toList → size other ≤ limit → size other ≤ size start) :
    boundaryBefore? s limit = some (size start) := by
  induction limit with
  | zero =>
    have hzero : size start = 0 := Nat.le_zero.mp hsize
    rw [boundaryBefore?, if_pos (isValid_iff_size.mpr ⟨start, h, hzero⟩), hzero]
  | succ n ih =>
    rw [boundaryBefore?]
    split
    · rename_i hvalid
      obtain ⟨other, hother, hlength⟩ := isValid_iff_size.mp hvalid
      have hle := hmost other hother (Nat.le_of_eq hlength)
      rw [Nat.le_antisymm hsize (hlength ▸ hle)]
    · rename_i hinside
      have hne : size start ≠ n + 1 := fun heq => hinside (isValid_iff_size.mpr ⟨start, h, heq⟩)
      exact ih (by omega) fun other hother hle => hmost other hother (by omega)

/-- The second character has its bytes on both sides of the limit. -/
example : cutBackwards? 2 "a\u00e9" = some [0x61] := by decide

end Utf8

namespace Log

open Utf8 Json

variable {limit : Nat} {text start : List Char}

namespace LongestWithin

theorem eq_of_size_le (h : LongestWithin limit text start) (hsize : size text ≤ limit) :
    start = text :=
  h.1.eq_of_length_le (h.2.2 text List.prefix_rfl hsize).length_le

/-- What is lost is less than one character. -/
theorem lt_size (h : LongestWithin limit text start) (hsize : limit < size text) :
    limit < size start + 4 := by
  rcases eq_or_exists_char h.1 with rfl | ⟨c, hc⟩
  · omega
  · have hmore : limit < size (start ++ [c]) := by
      by_contra hfits
      have hlength := (h.2.2 _ hc (Nat.le_of_not_lt hfits)).length_le
      simp at hlength
    have hchar : c.utf8Size ≤ 4 := c.utf8Size_le_four
    rw [size_append, size, size] at hmore
    omega

theorem idem {again : List Char} (h : LongestWithin limit text start)
    (h' : LongestWithin limit start again) : again = start :=
  h'.eq_of_size_le h.2.1

/-- Going back from the limit finds the longest beginning, and splits no character. -/
theorem cutBackwards?_eq {s : String} (h : LongestWithin limit s.toList start) :
    cutBackwards? limit s = some (encode start) := by
  have hbytes : s.utf8ByteSize = size s.toList := by
    rw [← utf8ByteSize_ofList, String.ofList_toList]
  rw [cutBackwards?, hbytes]
  split
  · rename_i hfits
    rw [h.eq_of_size_le hfits]
  · have hstop : boundaryBefore? s limit = some (size start) :=
      boundaryBefore?_eq h.1 h.2.1 fun other hother hle =>
        size_le_of_prefix (h.2.2 other hother hle)
    have hvalid := isValid_iff_size.mpr ⟨start, h.1, rfl⟩
    simp only [hstop, Option.bind_eq_bind, Option.bind_some, if_pos hvalid, encode_prefix h.1]

end LongestWithin

/-- A message enters its line at one place, cut. -/
theorem exists_render (n : Notice) : ∃ back, ∀ message, ({ n with message } : Notice).render =
    "[" ++ n.level.name ++ "] " ++ n.code.text ++ " - " ++ cut message ++ back := by
  apply Exists.intro
  intro message
  simp only [Notice.render, String.append_assoc]
  rfl

theorem valuesOf_message (e : Event) :
    ∃ members, parse? e.renderJson = some (.object members) ∧
      valuesOf "message" members = [.ofString (cut e.message)] := by
  have hkeys : (e.fields.map Prod.fst).Nodup := by
    rw [show e.fields.map Prod.fst = reportKeys from rfl]
    decide
  have hfield : ("message", some (Value.ofString (cut e.message))) ∈ e.fields := by
    simp [Event.fields]
  refine ⟨(present e.fields).map member, ?_, valuesOf_present hkeys hfield⟩
  rw [e.parse?_renderJson, e.value_eq, record_eq]

/-- The cut message is the longest beginning that fits, found by going back in the bytes. All of a
message is kept that fits, and less than four bytes are given up of the limit otherwise. The cut
message stays as it is when it is cut again, and it is what both renderings show. -/
theorem cut_longest_shown :
    (∀ message : String,
      LongestWithin 4096 message.toList (cut message).toList ∧
      cutBackwards? 4096 message = some (encode (cut message).toList) ∧
      (size message.toList ≤ 4096 → cut message = message) ∧
      (4096 < size message.toList → 4093 ≤ size (cut message).toList) ∧
      cut (cut message) = cut message) ∧
    (∀ n : Notice, ∃ back, ∀ message, ({ n with message } : Notice).render =
      "[" ++ n.level.name ++ "] " ++ n.code.text ++ " - " ++ cut message ++ back) ∧
    ∀ e : Event, ∃ members, parse? e.renderJson = some (.object members) ∧
      valuesOf "message" members = [.ofString (cut e.message)] := by
  refine ⟨fun message => ?_, exists_render, valuesOf_message⟩
  have hcut := longestWithin_cut message
  refine ⟨hcut, hcut.cutBackwards?_eq, fun hfits => ?_, fun hlong => ?_, ?_⟩
  · exact String.toList_inj.mp (hcut.eq_of_size_le hfits)
  · have hloss := hcut.lt_size hlong
    simp only [messageLimit] at hloss
    omega
  · exact String.toList_inj.mp (hcut.idem (longestWithin_cut (cut message)))

end Log
end TokenDump
