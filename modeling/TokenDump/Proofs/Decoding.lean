import TokenDump.Proofs.Undecodable

/-! # What is decoded

Reading character by character accepts exactly UTF-8: a text comes out, and nothing is left over,
if and only if the bytes encode that text. Of other bytes the longest text at their front comes
out, and then a fault. -/
namespace TokenDump

namespace Utf8

/-- The bits of a number in the layout of a two-byte sequence, whether it needs two bytes or not. -/
def twoBytes (n : Nat) : Bytes := [.ofNat (n / 64 % 0x20 + 0xC0), .ofNat (n % 0x40 + 0x80)]

/-- The same in the layout of a three-byte sequence. -/
def threeBytes (n : Nat) : Bytes :=
  [.ofNat (n / 4096 % 0x10 + 0xE0), .ofNat (n / 64 % 0x40 + 0x80), .ofNat (n % 0x40 + 0x80)]

/-- The same in the layout of a four-byte sequence. -/
def fourBytes (n : Nat) : Bytes :=
  [.ofNat (n / 262144 % 0x08 + 0xF0), .ofNat (n / 4096 % 0x40 + 0x80),
    .ofNat (n / 64 % 0x40 + 0x80), .ofNat (n % 0x40 + 0x80)]

/-- The bytes start with what the standard names as ill-formed. -/
inductive IllFormed : Bytes → Prop
  | stray {b : UInt8} {rest : Bytes} (continuation : isContinuation b = true) :
      IllFormed (b :: rest)
  | overlongTwo {n : Nat} {rest : Bytes} (shorter : n < 0x80) : IllFormed (twoBytes n ++ rest)
  | overlongThree {n : Nat} {rest : Bytes} (shorter : n < 0x800) :
      IllFormed (threeBytes n ++ rest)
  | overlongFour {n : Nat} {rest : Bytes} (shorter : n < 0x10000) :
      IllFormed (fourBytes n ++ rest)
  | surrogate {n : Nat} {rest : Bytes} (low : 0xD800 ≤ n) (high : n ≤ 0xDFFF) :
      IllFormed (threeBytes n ++ rest)
  | beyond {n : Nat} {rest : Bytes} (past : 0x10FFFF < n) (four : n < 0x200000) :
      IllFormed (fourBytes n ++ rest)
  /-- The layouts of five and six bytes, and the two bytes that start nothing. -/
  | tooLong {b : UInt8} {rest : Bytes} (lead : 0xF8 ≤ b.toNat) : IllFormed (b :: rest)
  /-- A character breaks off, at the end of the bytes or where no continuation follows. -/
  | truncated {c : Char} {taken missing rest : Bytes}
      (character : String.utf8EncodeChar c = taken ++ missing) (begun : taken ≠ [])
      (broken : missing ≠ []) (stops : ∀ b ∈ rest.head?, isContinuation b = false) :
      IllFormed (taken ++ rest)

variable {lead b : UInt8} {tail rest bad : Bytes} {c d : Char} {text longer : List Char}

theorem isContinuation_of_mem_encodeChar (h : String.utf8EncodeChar c = lead :: tail) :
    ∀ b ∈ tail, isContinuation b = true := by
  rw [encodeChar_eq] at h
  split_ifs at h <;> obtain ⟨rfl, rfl⟩ := List.cons.inj h <;>
    simp only [List.mem_cons, List.not_mem_nil, or_false, forall_eq_or_imp, forall_eq,
      isContinuation_ofNat, and_self, false_implies, implies_true]

theorem encodeChar_prefix_cons (h : String.utf8EncodeChar c <+: lead :: rest) :
    ∃ tail, String.utf8EncodeChar c = lead :: tail ∧ tail <+: rest := by
  obtain ⟨lead', tail, hc⟩ := List.exists_cons_of_ne_nil (String.utf8EncodeChar_ne_nil (c := c))
  rw [hc, List.cons_prefix_cons] at h
  obtain ⟨rfl, htail⟩ := h
  exact ⟨tail, hc, htail⟩

/-- The first byte fixes the length. -/
theorem length_eq_of_lead {tail' : Bytes} (hc : String.utf8EncodeChar c = lead :: tail)
    (hd : String.utf8EncodeChar d = lead :: tail') : tail.length = tail'.length := by
  have hwidth := (sequence_encodeChar hc).1
  rw [(sequence_encodeChar hd).1] at hwidth
  simpa using hwidth.symm

/-- Of two characters at the front of the same bytes neither is cut short by the other. -/
theorem encodeChar_inj_of_prefix {bytes : Bytes} (hc : String.utf8EncodeChar c <+: bytes)
    (hd : String.utf8EncodeChar d <+: bytes) : c = d := by
  obtain ⟨lead, tail, hlead⟩ := List.exists_cons_of_ne_nil (String.utf8EncodeChar_ne_nil (c := c))
  obtain ⟨rest, rfl⟩ := hc
  rw [hlead, List.cons_append] at hd
  obtain ⟨tail', hlead', htail'⟩ := encodeChar_prefix_cons hd
  have hlength := length_eq_of_lead hlead' hlead
  obtain rfl : tail' = tail := (List.prefix_of_prefix_length_le htail' (List.prefix_append ..)
    hlength.le).eq_of_length hlength
  have hsequence := (sequence_encodeChar hlead).2
  rw [(sequence_encodeChar hlead').2] at hsequence
  exact (Except.ok.inj hsequence).symm

/-- No text at the front of the bytes reaches past the one behind which no character stands. -/
theorem prefix_of_encode_prefix (hbad : ∀ c, ¬ String.utf8EncodeChar c <+: bad)
    (h : encode longer <+: encode text ++ bad) : longer <+: text := by
  induction longer generalizing text with
  | nil => exact List.nil_prefix
  | cons c longer ih =>
    have he : encode (c :: longer) = String.utf8EncodeChar c ++ encode longer := rfl
    rw [he] at h
    have hc := (List.prefix_append ..).trans h
    cases text with
    | nil => exact absurd hc (hbad c)
    | cons d text =>
      have hd : encode (d :: text) ++ bad = String.utf8EncodeChar d ++ (encode text ++ bad) :=
        List.append_assoc ..
      rw [hd] at h hc
      obtain rfl := encodeChar_inj_of_prefix hc (List.prefix_append ..)
      rw [List.prefix_append_right_inj] at h
      exact List.cons_prefix_cons.mpr ⟨rfl, ih h⟩

theorem not_prefix_of_width (h : width lead = none) (rest : Bytes) (c : Char) :
    ¬ String.utf8EncodeChar c <+: lead :: rest := by
  intro hc
  obtain ⟨tail, hlead, -⟩ := encodeChar_prefix_cons hc
  rw [(sequence_encodeChar hlead).1] at h
  simp at h

theorem not_prefix_of_not_mayFollow (hlead : 0xE0 ≤ lead.toNat) (h : mayFollow lead b = false)
    (rest : Bytes) (c : Char) : ¬ String.utf8EncodeChar c <+: lead :: b :: rest := by
  intro hc
  obtain ⟨tail, hchar, htail⟩ := encodeChar_prefix_cons hc
  obtain ⟨hwidth, hsequence⟩ := sequence_encodeChar hchar
  have hbounds := bounds_of_width hwidth
  match tail with
  | [] | [_] | _ :: _ :: _ :: _ :: _ =>
    simp only [List.length_cons, List.length_nil] at hbounds
    omega
  | [b', _] | [b', _, _] =>
    obtain rfl := (List.cons_prefix_cons.mp htail).1
    simp [sequence, h] at hsequence

/-- What is ill-formed starts with no character. -/
theorem IllFormed.noCharacter (h : IllFormed bad) (c : Char) :
    ¬ String.utf8EncodeChar c <+: bad := by
  cases h with
  | @stray b rest continuation =>
    rw [isContinuation_iff] at continuation
    apply not_prefix_of_width
    rw [width_eq, if_neg (by omega), if_neg (by omega), if_neg (by omega), if_neg (by omega)]
  | @overlongTwo n rest shorter =>
    apply not_prefix_of_width
    rw [width_eq, toNat_byte (by omega), if_neg (by omega), if_neg (by omega), if_neg (by omega),
      if_neg (by omega)]
  | @overlongThree n rest shorter =>
    have hlead := toNat_byte (n := n / 4096 % 0x10 + 0xE0) (by omega)
    apply not_prefix_of_not_mayFollow (by omega)
    rw [← Bool.not_eq_true, mayFollow_iff, hlead, toNat_byte (by omega), if_pos (by omega)]
    omega
  | @overlongFour n rest shorter =>
    have hlead := toNat_byte (n := n / 262144 % 0x08 + 0xF0) (by omega)
    apply not_prefix_of_not_mayFollow (by omega)
    rw [← Bool.not_eq_true, mayFollow_iff, hlead, toNat_byte (by omega), if_neg (by omega),
      if_pos (by omega)]
    omega
  | @surrogate n rest low high =>
    have hlead := toNat_byte (n := n / 4096 % 0x10 + 0xE0) (by omega)
    apply not_prefix_of_not_mayFollow (by omega)
    rw [← Bool.not_eq_true, mayFollow_iff, hlead, toNat_byte (by omega)]
    split_ifs <;> omega
  | @beyond n rest past four =>
    have hlead := toNat_byte (n := n / 262144 % 0x08 + 0xF0) (by omega)
    by_cases hfour : n < 0x140000
    · apply not_prefix_of_not_mayFollow (by omega)
      rw [← Bool.not_eq_true, mayFollow_iff, hlead, toNat_byte (by omega)]
      split_ifs <;> omega
    · apply not_prefix_of_width
      rw [width_eq, hlead, if_neg (by omega), if_neg (by omega), if_neg (by omega),
        if_neg (by omega)]
  | @tooLong b rest lead =>
    apply not_prefix_of_width
    rw [width_eq, if_neg (by omega), if_neg (by omega), if_neg (by omega), if_neg (by omega)]
  | @truncated d taken missing rest character begun broken stops =>
    intro hc
    obtain ⟨lead, more, rfl⟩ := List.exists_cons_of_ne_nil begun
    rw [List.cons_append] at character hc
    obtain ⟨tail, hlead, htail⟩ := encodeChar_prefix_cons hc
    have hlength := length_eq_of_lead hlead character
    have hmissing := List.length_pos_iff.mpr broken
    rw [List.length_append] at hlength
    obtain ⟨last, rfl⟩ := List.prefix_of_prefix_length_le (List.prefix_append ..) htail (by omega)
    rw [List.length_append] at hlength
    obtain ⟨b, last, rfl⟩ := List.exists_cons_of_ne_nil (List.length_pos_iff.mp
      (by omega : 0 < last.length))
    rw [List.prefix_append_right_inj] at htail
    obtain ⟨rest, rfl⟩ := htail
    have hb := isContinuation_of_mem_encodeChar hlead b (by simp)
    simp [stops b rfl] at hb

theorem IllFormed.ne_nil (h : IllFormed bad) : bad ≠ [] := by
  cases h with
  | truncated character begun => simp [begun]
  | _ => simp [twoBytes, threeBytes, fourBytes]

end Utf8

namespace Feed

/-- What reading character by character gives, until the end is reported or a reading fails. -/
def decoded (feed : Feed) : List Char × Option Fault :=
  match _h : read feed with
  | (.finish, _) => ([], none)
  | (.fault cause, _) => ([], some cause)
  | (.char c, rest) => (c :: (decoded rest).1, (decoded rest).2)
termination_by feed.size
decreasing_by
  all_goals
    have hne : feed ≠ [] := by
      rintro rfl
      simp [read, byte] at _h
    have hlt := size_read_lt hne
    rw [_h] at hlt
    exact hlt

variable {feed rest : Feed} {bytes bad : Bytes} {c : Char} {text : List Char} {fault : Fault}

theorem decoded_of_finish (h : read feed = (.finish, rest)) : feed.decoded = ([], none) := by
  rw [decoded]
  split <;> simp_all

theorem decoded_of_fault (h : read feed = (.fault fault, rest)) :
    feed.decoded = ([], some fault) := by
  rw [decoded]
  split <;> simp_all

theorem decoded_of_char (h : read feed = (.char c, rest)) :
    feed.decoded = (c :: rest.decoded.1, rest.decoded.2) := by
  rw [decoded]
  split <;> simp_all

/-- A text is decoded, and after it what stands behind it. -/
theorem Delivers.decoded (h : Delivers feed (Utf8.encode text ++ bad) []) :
    ∃ rest, Delivers rest bad [] ∧
      feed.decoded = (text ++ rest.decoded.1, rest.decoded.2) := by
  induction text generalizing feed with
  | nil => exact ⟨feed, h, rfl⟩
  | cons c text ih =>
    have he : Utf8.encode (c :: text) = String.utf8EncodeChar c ++ Utf8.encode text := rfl
    rw [he, List.append_assoc] at h
    obtain ⟨next, hread, hnext⟩ := h.read
    obtain ⟨rest, hrest, hdecoded⟩ := ih hnext
    refine ⟨rest, hrest, ?_⟩
    rw [decoded_of_char hread, hdecoded]
    rfl

theorem Delivers.decoded_encode (h : Delivers feed (Utf8.encode text) []) :
    feed.decoded = (text, none) := by
  rw [← List.append_nil (Utf8.encode text)] at h
  obtain ⟨rest, hrest, hdecoded⟩ := h.decoded
  have hread : rest.read = (.finish, []) := by
    rw [Feed.read, hrest.byte_nil, Feed.byte]
  rw [hdecoded, decoded_of_finish hread, List.append_nil]

theorem Delivers.decoded_bad (h : Delivers feed (Utf8.encode text ++ bad) [])
    (hne : bad ≠ []) (hbad : ∀ c, ¬ String.utf8EncodeChar c <+: bad) :
    ∃ fault, feed.decoded = (text, some fault) ∧ fault.kind = .invalidData := by
  obtain ⟨rest, hrest, hdecoded⟩ := h.decoded
  obtain ⟨fault, last, hread, hblames, -⟩ :=
    hrest.read_undecodable ⟨hbad, .inl ⟨rfl, hne⟩⟩
  refine ⟨fault, ?_, hblames.resolve_right (by simp)⟩
  rw [hdecoded, decoded_of_fault hread, List.append_nil]

/-- A character takes from the feed the bytes that encode it, and no more. -/
theorem Delivers.of_read_char (h : Delivers feed bytes [])
    (hread : feed.read = (.char c, rest)) :
    ∃ more, bytes = String.utf8EncodeChar c ++ more ∧ Delivers rest more [] := by
  by_cases hc : ∃ d, String.utf8EncodeChar d <+: bytes
  · obtain ⟨d, more, rfl⟩ := hc
    obtain ⟨last, hlast, hmore⟩ := h.read
    obtain ⟨hchar, rfl⟩ := Prod.mk.inj (hread.symm.trans hlast)
    obtain rfl := Reading.char.inj hchar
    exact ⟨more, rfl, hmore⟩
  · rw [not_exists] at hc
    cases bytes with
    | nil =>
      rw [Feed.read, h.byte_nil, Feed.byte] at hread
      simp at hread
    | cons b bytes =>
      obtain ⟨fault, last, hfault, -⟩ := h.read_undecodable ⟨hc, .inl ⟨rfl, by simp⟩⟩
      rw [hread] at hfault
      simp at hfault

/-- Of bytes handed out in any fills exactly UTF-8 is accepted, and it is decoded to the text that
it encodes. Of other bytes the longest text at their front is decoded, and then there is a fault, in
particular where something ill-formed stands behind a text. -/
theorem Delivers.decoded_eq_iff (h : Delivers feed bytes []) :
    (∀ text, feed.decoded = (text, none) ↔ bytes = Utf8.encode text) ∧
      ((∀ text, bytes ≠ Utf8.encode text) → ∃ text fault, feed.decoded = (text, some fault) ∧
        fault.kind = .invalidData ∧ Utf8.encode text <+: bytes ∧
          ∀ longer, Utf8.encode longer <+: bytes → longer <+: text) ∧
      (∀ text bad, bytes = Utf8.encode text ++ bad → Utf8.IllFormed bad →
        ∃ fault, feed.decoded = (text, some fault) ∧ fault.kind = .invalidData) ∧
      ∀ c rest, feed.read = (.char c, rest) →
        ∃ more, bytes = String.utf8EncodeChar c ++ more ∧ Delivers rest more [] := by
  obtain ⟨text, bad, rfl, hbad⟩ := Utf8.exists_split bytes
  refine ⟨fun other => ⟨fun hother => ?_, fun hother => ?_⟩, fun hnone => ?_, ?_, ?_⟩
  · by_cases hne : bad = []
    · subst hne
      rw [List.append_nil] at h ⊢
      rw [h.decoded_encode] at hother
      rw [(Prod.mk.inj hother).1]
    · obtain ⟨fault, hfault, -⟩ := h.decoded_bad hne hbad
      rw [hother] at hfault
      simp at hfault
  · rw [hother] at h
    exact h.decoded_encode
  · have hne : bad ≠ [] := by
      rintro rfl
      exact hnone text (List.append_nil _)
    obtain ⟨fault, hfault, hkind⟩ := h.decoded_bad hne hbad
    exact ⟨text, fault, hfault, hkind, List.prefix_append ..,
      fun longer => Utf8.prefix_of_encode_prefix hbad⟩
  · intro other ill hother hill
    rw [hother] at h
    exact h.decoded_bad hill.ne_nil hill.noCharacter
  · intro c rest hread
    exact h.of_read_char hread

theorem decoded_eq_iff_surrogate :
    let feed : Feed := [.bytes [0x61, 0xC3], .fault ⟨.interrupted, "again"⟩, .bytes [0xA9, 0xED],
      .bytes [0xA0, 0x80, 0x62]]
    feed.Delivers (Utf8.encode ['a', 'é'] ++ (Utf8.threeBytes 0xD800 ++ [0x62])) [] ∧
      Utf8.IllFormed (Utf8.threeBytes 0xD800 ++ [0x62]) ∧
      ∃ fault, feed.decoded = (['a', 'é'], some fault) ∧ fault.kind = .invalidData := by
  intro feed
  have he : Utf8.encode ['a', 'é'] ++ (Utf8.threeBytes 0xD800 ++ [0x62]) =
      [0x61, 0xC3] ++ ([0xA9, 0xED] ++ ([0xA0, 0x80, 0x62] ++ [])) := by
    decide
  have hd : feed.Delivers (Utf8.encode ['a', 'é'] ++ (Utf8.threeBytes 0xD800 ++ [0x62])) [] := by
    rw [he]
    exact .fill (by simp) (.interrupted rfl (.fill (by simp) (.fill (by simp) .done)))
  have hill : Utf8.IllFormed (Utf8.threeBytes 0xD800 ++ [0x62]) :=
    .surrogate (Nat.le_refl _) (by omega)
  exact ⟨hd, hill, hd.decoded_eq_iff.2.2.1 _ _ rfl hill⟩

end Feed
end TokenDump
