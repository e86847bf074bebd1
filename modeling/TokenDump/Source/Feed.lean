import TokenDump.Fault
import TokenDump.Text.Utf8

/-! # Feeds

A feed hands out bytes in fills of any size, with faults in between. An empty fill reports the end
of the input once; what follows it is still delivered to whoever asks again. Reading a feed
decodes it into characters, ends and faults, one at a time. -/
namespace TokenDump

inductive Fill where
  | bytes (chunk : Bytes)
  | fault (cause : Fault)
deriving DecidableEq

abbrev Feed := List Fill

/-- What one attempt to read a character gives. -/
inductive Reading where
  | char (c : Char)
  | finish
  | fault (cause : Fault)
deriving DecidableEq

namespace Feed

/-- A feed of one chunk after the other. -/
def ofChunks (chunks : List Bytes) : Feed := chunks.map .bytes

/-- Bytes and fills still to come. -/
def size : Feed → Nat
  | [] => 0
  | .bytes chunk :: rest => chunk.length + 1 + size rest
  | .fault _ :: rest => 1 + size rest

/-- The feed after the first byte of `b :: chunk` was taken: a used up fill is gone. -/
def drop (chunk : Bytes) (rest : Feed) : Feed :=
  if chunk.isEmpty then rest else .bytes chunk :: rest

/-- The next byte, or `none` at a reported end. An interruption is passed over. -/
def byte : Feed → Except Fault (Option UInt8) × Feed
  | [] => (.ok none, [])
  | .bytes [] :: rest => (.ok none, rest)
  | .bytes (b :: chunk) :: rest => (.ok (some b), drop chunk rest)
  | .fault cause :: rest =>
    if cause.kind = .interrupted then byte rest else (.error cause, rest)

def truncated : Fault := .invalidData "truncated UTF-8 sequence at end of input"

def badLead (b : UInt8) : Fault :=
  let digits := Nat.toDigits 16 b.toNat
  let digits := if b < 0x10 then '0' :: digits else digits
  .invalidData ("invalid UTF-8 lead byte 0x" ++ String.ofList digits)

def badSequence (length : Nat) : Fault :=
  .invalidData s!"invalid utf-8 sequence of {length} bytes from index 0"

/-- The next `n` bytes, none of which may be missing. -/
def bytes : Nat → Feed → Except Fault Bytes × Feed
  | 0, feed => (.ok [], feed)
  | n + 1, feed =>
    match byte feed with
    | (.error cause, rest) => (.error cause, rest)
    | (.ok none, rest) => (.error truncated, rest)
    | (.ok (some b), rest) =>
      let (tail, rest) := bytes n rest
      (tail.map (b :: ·), rest)

/-- Reads one character. A sequence that is not UTF-8 is consumed to the length that its first byte
announces. -/
def read (feed : Feed) : Reading × Feed :=
  match byte feed with
  | (.error cause, rest) => (.fault cause, rest)
  | (.ok none, rest) => (.finish, rest)
  | (.ok (some lead), rest) =>
    match Utf8.width lead with
    | none => (.fault (badLead lead), rest)
    | some width =>
      match bytes (width - 1) rest with
      | (.error cause, rest) => (.fault cause, rest)
      | (.ok tail, rest) =>
        match Utf8.sequence (lead :: tail) with
        | .error length => (.fault (badSequence length), rest)
        | .ok c => (.char c, rest)

theorem size_drop (chunk : Bytes) (rest : Feed) :
    size (drop chunk rest) ≤ chunk.length + 1 + size rest := by
  unfold drop
  split
  · omega
  · exact Nat.le_refl _

theorem size_byte_le (feed : Feed) : size (byte feed).2 ≤ size feed := by
  fun_induction byte feed with
  | case1 => simp
  | case2 rest => simp [size]
  | case3 b chunk rest =>
    have := size_drop chunk rest
    simp [size]; omega
  | case4 cause rest h ih => simp [size]; omega
  | case5 cause rest h => simp [size]

theorem size_byte_lt {feed : Feed} (h : feed ≠ []) : size (byte feed).2 < size feed := by
  fun_cases byte feed with
  | case1 => exact absurd rfl h
  | case2 rest => simp [size]
  | case3 b chunk rest =>
    have := size_drop chunk rest
    simp [size]; omega
  | case4 cause rest h' =>
    have := size_byte_le rest
    simp [size]; omega
  | case5 cause rest h' => simp [size]

theorem size_bytes_le (n : Nat) (feed : Feed) : size (bytes n feed).2 ≤ size feed := by
  induction n generalizing feed with
  | zero => simp [bytes]
  | succ n ih =>
    have hb := size_byte_le feed
    simp only [bytes]
    split <;> rename_i h <;> rw [h] at hb
    · exact hb
    · exact hb
    · exact Nat.le_trans (ih _) hb

theorem size_read_lt {feed : Feed} (h : feed ≠ []) : size (read feed).2 < size feed := by
  have hb := size_byte_lt h
  simp only [read]
  split <;> rename_i hr <;> rw [hr] at hb
  · exact hb
  · exact hb
  · split
    · exact hb
    · rename_i width hw
      have ht := size_bytes_le (width - 1) (byte feed).2
      rw [hr] at ht
      simp only at ht hb
      split <;> rename_i hs <;> rw [hs] at ht
      · exact Nat.lt_of_le_of_lt ht hb
      · split <;> exact Nat.lt_of_le_of_lt ht hb

/-- Every reading that the feed gives until it has nothing more to hand out. -/
def readings (feed : Feed) : List Reading :=
  if _h : feed = [] then [] else
    (read feed).1 :: readings (read feed).2
termination_by feed.size
decreasing_by exact size_read_lt _h

theorem readings_nil : readings [] = [] := by simp [readings]

theorem readings_of_ne_nil {feed : Feed} (h : feed ≠ []) :
    readings feed = (read feed).1 :: readings (read feed).2 := by
  rw [readings]; simp [h]

end Feed
end TokenDump
