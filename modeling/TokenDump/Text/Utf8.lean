/-! # UTF-8

Characters as one to four bytes. The first byte of a sequence fixes its length; whether the
sequence is well formed is decided on all of its bytes. -/
namespace TokenDump

abbrev Bytes := List UInt8

namespace Utf8

/-- The bytes of a text. -/
def encode (text : List Char) : Bytes := text.flatMap String.utf8EncodeChar

/-- Length of the sequence that a byte starts; `none` for a byte that starts none. -/
def width (lead : UInt8) : Option Nat :=
  if lead ≤ 0x7F then some 1
  else if 0xC2 ≤ lead && lead ≤ 0xDF then some 2
  else if 0xE0 ≤ lead && lead ≤ 0xEF then some 3
  else if 0xF0 ≤ lead && lead ≤ 0xF4 then some 4
  else none

def isContinuation (b : UInt8) : Bool := 0x80 ≤ b && b ≤ 0xBF

/-- Whether `b` may follow `lead` at the start of a sequence of three or four bytes: the rest would
encode a shorter sequence once more, a surrogate or a value past the last code point. -/
def mayFollow (lead b : UInt8) : Bool :=
  let low : UInt8 := if lead = 0xE0 then 0xA0 else if lead = 0xF0 then 0x90 else 0x80
  let high : UInt8 := if lead = 0xED then 0x9F else if lead = 0xF4 then 0x8F else 0xBF
  low ≤ b && b ≤ high

/-- The low six bits of a continuation byte. -/
def payload (b : UInt8) : Nat := b.toNat % 0x40

/-- The character of a whole sequence, or the number of its bytes that cannot be part of any
character. The sequence is as long as its first byte says. -/
def sequence : Bytes → Except Nat Char
  | [a] => .ok (Char.ofNat a.toNat)
  | [a, b] =>
    if isContinuation b then .ok (Char.ofNat (a.toNat % 0x20 * 0x40 + payload b)) else .error 1
  | [a, b, c] =>
    if !mayFollow a b then .error 1
    else if !isContinuation c then .error 2
    else .ok (Char.ofNat ((a.toNat % 0x10 * 0x40 + payload b) * 0x40 + payload c))
  | [a, b, c, d] =>
    if !mayFollow a b then .error 1
    else if !isContinuation c then .error 2
    else if !isContinuation d then .error 3
    else .ok (Char.ofNat
      (((a.toNat % 0x08 * 0x40 + payload b) * 0x40 + payload c) * 0x40 + payload d))
  | _ => .error 1

/-- The text that `bytes` encode, if they encode one. -/
def decode? (bytes : Bytes) : Option (List Char) :=
  match bytes with
  | [] => some []
  | lead :: rest =>
    match width lead with
    | none => none
    | some n =>
      let tail := rest.take (n - 1)
      if tail.length < n - 1 then none
      else match sequence (lead :: tail) with
        | .error _ => none
        | .ok c => (decode? (rest.drop (n - 1))).map (c :: ·)
termination_by bytes.length
decreasing_by simp only [List.length_drop, List.length_cons]; omega

/-- Length of a text in bytes. -/
def size : List Char → Nat
  | [] => 0
  | c :: text => c.utf8Size + size text

theorem length_encode (text : List Char) : (encode text).length = size text := by
  induction text with
  | nil => rfl
  | cons c text ih => simp_all [encode, size, String.length_utf8EncodeChar]

end Utf8
end TokenDump
