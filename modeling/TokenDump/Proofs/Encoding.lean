import Mathlib.Tactic.SplitIfs
import TokenDump.Text.Utf8

/-! # Reading UTF-8

A byte sequence of the length that its first byte announces is read as a character exactly if it is
the encoding of that character. -/
namespace TokenDump.Utf8

theorem width_eq (lead : UInt8) : width lead =
    if lead.toNat ≤ 0x7F then some 1
    else if 0xC2 ≤ lead.toNat ∧ lead.toNat ≤ 0xDF then some 2
    else if 0xE0 ≤ lead.toNat ∧ lead.toNat ≤ 0xEF then some 3
    else if 0xF0 ≤ lead.toNat ∧ lead.toNat ≤ 0xF4 then some 4
    else none := by
  simp [width, UInt8.le_iff_toNat_le]

theorem bounds_of_width {lead : UInt8} {n : Nat} (h : width lead = some n) :
    n = 1 ∧ lead.toNat ≤ 0x7F ∨ n = 2 ∧ 0xC2 ≤ lead.toNat ∧ lead.toNat ≤ 0xDF ∨
      n = 3 ∧ 0xE0 ≤ lead.toNat ∧ lead.toNat ≤ 0xEF ∨
      n = 4 ∧ 0xF0 ≤ lead.toNat ∧ lead.toNat ≤ 0xF4 := by
  rw [width_eq] at h
  split_ifs at h <;> simp_all

theorem width_pos {lead : UInt8} {n : Nat} (h : width lead = some n) : 0 < n := by
  have := bounds_of_width h
  omega

theorem isContinuation_iff {b : UInt8} :
    isContinuation b = true ↔ 0x80 ≤ b.toNat ∧ b.toNat ≤ 0xBF := by
  simp [isContinuation, UInt8.le_iff_toNat_le]

theorem mayFollow_iff {lead b : UInt8} : mayFollow lead b = true ↔
    (if lead.toNat = 0xE0 then 0xA0 else if lead.toNat = 0xF0 then 0x90 else 0x80) ≤ b.toNat ∧
      b.toNat ≤ if lead.toNat = 0xED then 0x9F else if lead.toNat = 0xF4 then 0x8F else 0xBF := by
  simp only [mayFollow, Bool.and_eq_true, decide_eq_true_eq, UInt8.le_iff_toNat_le,
    ← UInt8.toNat_inj]
  split_ifs <;> simp_all

theorem toNat_char {n : Nat} (h : n.isValidChar) : (Char.ofNat n).toNat = n := by
  rw [Char.ofNat, dif_pos h]
  rfl

theorem toNat_byte {n : Nat} (h : n < 256) : (UInt8.ofNat n).toNat = n :=
  UInt8.toNat_ofNat_of_lt' h

theorem encodeChar_eq (c : Char) : String.utf8EncodeChar c =
    if c.toNat ≤ 0x7F then [.ofNat c.toNat]
    else if c.toNat ≤ 0x7FF then [.ofNat (c.toNat / 64 % 0x20 + 0xC0), .ofNat (c.toNat % 0x40 + 0x80)]
    else if c.toNat ≤ 0xFFFF then
      [.ofNat (c.toNat / 4096 % 0x10 + 0xE0), .ofNat (c.toNat / 64 % 0x40 + 0x80),
        .ofNat (c.toNat % 0x40 + 0x80)]
    else
      [.ofNat (c.toNat / 262144 % 0x08 + 0xF0), .ofNat (c.toNat / 4096 % 0x40 + 0x80),
        .ofNat (c.toNat / 64 % 0x40 + 0x80), .ofNat (c.toNat % 0x40 + 0x80)] := rfl

theorem eq_ofNat {n : Nat} {b : UInt8} (h : n = b.toNat) : UInt8.ofNat n = b := by
  rw [h, UInt8.ofNat_toNat]

theorem isContinuation_ofNat (n : Nat) : isContinuation (.ofNat (n % 0x40 + 0x80)) = true := by
  rw [isContinuation_iff, toNat_byte (by omega)]
  omega

theorem payload_ofNat (n : Nat) : payload (.ofNat (n % 0x40 + 0x80)) = n % 0x40 := by
  rw [payload, toNat_byte (by omega)]
  omega

theorem toNat_eq_payload {b : UInt8} (h : isContinuation b = true) :
    b.toNat = payload b + 0x80 ∧ payload b < 0x40 := by
  rw [isContinuation_iff] at h
  simp only [payload]
  omega

theorem isContinuation_of_mayFollow {lead b : UInt8} (h : mayFollow lead b = true) :
    isContinuation b = true := by
  rw [mayFollow_iff] at h
  rw [isContinuation_iff]
  split_ifs at h <;> omega

variable {c : Char} {lead : UInt8} {tail : Bytes}

theorem sequence_encodeChar (h : String.utf8EncodeChar c = lead :: tail) :
    width lead = some (tail.length + 1) ∧ sequence (lead :: tail) = .ok c := by
  have hv : c.toNat < 0xD800 ∨ 0xDFFF < c.toNat ∧ c.toNat < 0x110000 := c.valid
  rw [encodeChar_eq] at h
  split_ifs at h with h1 h2 h3
  · obtain ⟨rfl, rfl⟩ := List.cons.inj h
    have ha := toNat_byte (n := c.toNat) (by omega)
    rw [width_eq, ha, if_pos h1, sequence, ha, Char.ofNat_toNat]
    exact ⟨rfl, rfl⟩
  · obtain ⟨rfl, rfl⟩ := List.cons.inj h
    have ha := toNat_byte (n := c.toNat / 64 % 0x20 + 0xC0) (by omega)
    have hn : (c.toNat / 64 % 0x20 + 0xC0) % 0x20 * 0x40 + c.toNat % 0x40 = c.toNat := by omega
    rw [width_eq, ha, if_neg (by omega), if_pos (by omega)]
    refine ⟨rfl, ?_⟩
    simp only [sequence, isContinuation_ofNat, payload_ofNat, if_true, ha, hn, Char.ofNat_toNat]
  · obtain ⟨rfl, rfl⟩ := List.cons.inj h
    have ha := toNat_byte (n := c.toNat / 4096 % 0x10 + 0xE0) (by omega)
    have hmay : mayFollow (.ofNat (c.toNat / 4096 % 0x10 + 0xE0))
        (.ofNat (c.toNat / 64 % 0x40 + 0x80)) = true := by
      rw [mayFollow_iff, ha, toNat_byte (by omega)]
      split_ifs <;> omega
    have hn : ((c.toNat / 4096 % 0x10 + 0xE0) % 0x10 * 0x40 + c.toNat / 64 % 0x40) * 0x40 +
        c.toNat % 0x40 = c.toNat := by omega
    rw [width_eq, ha, if_neg (by omega), if_neg (by omega), if_pos (by omega)]
    refine ⟨rfl, ?_⟩
    simp only [sequence, hmay, isContinuation_ofNat, payload_ofNat, Bool.not_true,
      Bool.false_eq_true, if_false, ha, hn, Char.ofNat_toNat]
  · obtain ⟨rfl, rfl⟩ := List.cons.inj h
    have ha := toNat_byte (n := c.toNat / 262144 % 0x08 + 0xF0) (by omega)
    have hmay : mayFollow (.ofNat (c.toNat / 262144 % 0x08 + 0xF0))
        (.ofNat (c.toNat / 4096 % 0x40 + 0x80)) = true := by
      rw [mayFollow_iff, ha, toNat_byte (by omega)]
      split_ifs <;> omega
    have hn : (((c.toNat / 262144 % 0x08 + 0xF0) % 0x08 * 0x40 + c.toNat / 4096 % 0x40) * 0x40 +
        c.toNat / 64 % 0x40) * 0x40 + c.toNat % 0x40 = c.toNat := by omega
    rw [width_eq, ha, if_neg (by omega), if_neg (by omega), if_neg (by omega), if_pos (by omega)]
    refine ⟨rfl, ?_⟩
    simp only [sequence, hmay, isContinuation_ofNat, payload_ofNat, Bool.not_true,
      Bool.false_eq_true, if_false, ha, hn, Char.ofNat_toNat]

variable {a b d e : UInt8}

theorem encodeChar_one (ha : a.toNat ≤ 0x7F) :
    String.utf8EncodeChar (.ofNat a.toNat) = [a] := by
  have hn := toNat_char (n := a.toNat) (by left; omega)
  rw [encodeChar_eq, hn, if_pos ha, UInt8.ofNat_toNat]

theorem encodeChar_two (ha : 0xC2 ≤ a.toNat ∧ a.toNat ≤ 0xDF) (hb : isContinuation b = true) :
    String.utf8EncodeChar (.ofNat (a.toNat % 0x20 * 0x40 + payload b)) = [a, b] := by
  obtain ⟨hb, hpb⟩ := toNat_eq_payload hb
  have hn := toNat_char (n := a.toNat % 0x20 * 0x40 + payload b) (by left; omega)
  rw [encodeChar_eq, hn, if_neg (by omega), if_pos (by omega),
    eq_ofNat (b := a) (by omega), eq_ofNat (b := b) (by omega)]

theorem encodeChar_three (ha : 0xE0 ≤ a.toNat ∧ a.toNat ≤ 0xEF) (hmay : mayFollow a b = true)
    (hd : isContinuation d = true) : String.utf8EncodeChar
      (.ofNat ((a.toNat % 0x10 * 0x40 + payload b) * 0x40 + payload d)) = [a, b, d] := by
  obtain ⟨hb, hpb⟩ := toNat_eq_payload (isContinuation_of_mayFollow hmay)
  obtain ⟨hd, hpd⟩ := toNat_eq_payload hd
  rw [mayFollow_iff] at hmay
  have hr : 0x800 ≤ (a.toNat % 0x10 * 0x40 + payload b) * 0x40 + payload d ∧
      ((a.toNat % 0x10 * 0x40 + payload b) * 0x40 + payload d).isValidChar := by
    unfold Nat.isValidChar
    split_ifs at hmay <;> omega
  have hn := toNat_char hr.2
  rw [encodeChar_eq, hn, if_neg (by omega), if_neg (by omega), if_pos (by omega),
    eq_ofNat (b := a) (by omega), eq_ofNat (b := b) (by omega), eq_ofNat (b := d) (by omega)]

theorem encodeChar_four (ha : 0xF0 ≤ a.toNat ∧ a.toNat ≤ 0xF4) (hmay : mayFollow a b = true)
    (hd : isContinuation d = true) (he : isContinuation e = true) : String.utf8EncodeChar
      (.ofNat (((a.toNat % 0x08 * 0x40 + payload b) * 0x40 + payload d) * 0x40 + payload e)) =
      [a, b, d, e] := by
  obtain ⟨hb, hpb⟩ := toNat_eq_payload (isContinuation_of_mayFollow hmay)
  obtain ⟨hd, hpd⟩ := toNat_eq_payload hd
  obtain ⟨he, hpe⟩ := toNat_eq_payload he
  rw [mayFollow_iff] at hmay
  have hr : 0x10000 ≤ ((a.toNat % 0x08 * 0x40 + payload b) * 0x40 + payload d) * 0x40 +
      payload e ∧ (((a.toNat % 0x08 * 0x40 + payload b) * 0x40 + payload d) * 0x40 +
      payload e).isValidChar := by
    unfold Nat.isValidChar
    split_ifs at hmay <;> omega
  have hn := toNat_char hr.2
  rw [encodeChar_eq, hn, if_neg (by omega), if_neg (by omega), if_neg (by omega),
    eq_ofNat (b := a) (by omega), eq_ofNat (b := b) (by omega), eq_ofNat (b := d) (by omega),
    eq_ofNat (b := e) (by omega)]

/-- What is read as a character encodes it: no other sequence is accepted. -/
theorem encodeChar_sequence (hw : width lead = some (tail.length + 1))
    (h : sequence (lead :: tail) = .ok c) : String.utf8EncodeChar c = lead :: tail := by
  have hbounds := bounds_of_width hw
  match tail with
  | [] =>
    obtain rfl : Char.ofNat lead.toNat = c := by simpa [sequence] using h
    exact encodeChar_one (by simp at hbounds; omega)
  | [b] =>
    simp only [sequence] at h
    split_ifs at h with hb
    obtain rfl := Except.ok.inj h
    exact encodeChar_two (by simp at hbounds; omega) hb
  | [b, d] =>
    simp only [sequence, Bool.not_eq_true'] at h
    split_ifs at h with hmay hd
    rw [Bool.not_eq_false] at hmay hd
    obtain rfl := Except.ok.inj h
    exact encodeChar_three (by simp at hbounds; omega) hmay hd
  | [b, d, e] =>
    simp only [sequence, Bool.not_eq_true'] at h
    split_ifs at h with hmay hd he
    rw [Bool.not_eq_false] at hmay hd he
    obtain rfl := Except.ok.inj h
    exact encodeChar_four (by simp at hbounds; omega) hmay hd he
  | b :: d :: e :: f :: tail =>
    simp only [List.length_cons] at hbounds
    omega

theorem decode?_encode (text : List Char) : decode? (encode text) = some text := by
  induction text with
  | nil => rw [encode, List.flatMap_nil, decode?]
  | cons c text ih =>
    obtain ⟨lead, tail, hc⟩ := List.exists_cons_of_ne_nil (String.utf8EncodeChar_ne_nil (c := c))
    obtain ⟨hwidth, hsequence⟩ := sequence_encodeChar hc
    have hcons : encode (c :: text) = lead :: (tail ++ encode text) := by
      rw [encode, List.flatMap_cons, hc]
      rfl
    rw [hcons, decode?]
    simp [hwidth, hsequence, ih]

theorem encode_decode? {bytes : Bytes} {text : List Char} (h : decode? bytes = some text) :
    bytes = encode text := by
  fun_induction decode? bytes generalizing text with
  | case1 =>
    obtain rfl := Option.some.inj h
    rfl
  | case2 | case3 | case4 => simp at h
  | case5 lead rest n hw tail hshort c hs =>
    rename_i ih
    obtain ⟨more, hmore, rfl⟩ := Option.map_eq_some_iff.mp h
    have hlength : n = tail.length + 1 := by
      have hpos := width_pos hw
      have hle : tail.length ≤ n - 1 := List.length_take_le ..
      omega
    have hchar := encodeChar_sequence (hw.trans (congrArg some hlength)) hs
    have hrest : tail ++ rest.drop (n - 1) = rest := List.take_append_drop ..
    rw [encode, List.flatMap_cons, hchar, List.cons_append, ← encode, ← ih hmore, hrest]

/-- The texts that bytes are decoded to are those that they encode. -/
theorem decode?_eq_some_iff {bytes : Bytes} {text : List Char} :
    decode? bytes = some text ↔ bytes = encode text := by
  refine ⟨encode_decode?, ?_⟩
  rintro rfl
  exact decode?_encode text

/-- The text at the front of the bytes that no character more can be added to. -/
theorem exists_split (bytes : Bytes) : ∃ text bad, bytes = encode text ++ bad ∧
    ∀ c, ¬ String.utf8EncodeChar c <+: bad := by
  induction hn : bytes.length using Nat.strongRecOn generalizing bytes with
  | ind n ih =>
    by_cases hc : ∃ c, String.utf8EncodeChar c <+: bytes
    · obtain ⟨c, rest, rfl⟩ := hc
      have hpos := c.utf8Size_pos
      rw [List.length_append, String.length_utf8EncodeChar] at hn
      obtain ⟨text, bad, rfl, hbad⟩ := ih rest.length (by omega) rest rfl
      exact ⟨c :: text, bad, by simp [encode], hbad⟩
    · exact ⟨[], bytes, rfl, not_exists.mp hc⟩

end TokenDump.Utf8
