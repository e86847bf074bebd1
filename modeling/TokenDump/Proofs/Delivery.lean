import TokenDump.Proofs.Encoding
import TokenDump.Source.Feed

/-! # Deliveries

A feed may hand out the same bytes in fills of any size, with interruptions in between. What is
read depends on the bytes alone, and on how the feed ends behind them. -/
namespace TokenDump.Feed

/-- The feed hands out the bytes in fills that are not empty, and goes on as `after`. -/
inductive Delivers : Feed → Bytes → Feed → Prop
  | done {after : Feed} : Delivers after [] after
  | fill {chunk bytes : Bytes} {rest after : Feed} (nonempty : chunk ≠ [])
      (more : Delivers rest bytes after) : Delivers (.bytes chunk :: rest) (chunk ++ bytes) after
  | interrupted {cause : Fault} {bytes : Bytes} {rest after : Feed}
      (kind : cause.kind = .interrupted) (more : Delivers rest bytes after) :
      Delivers (.fault cause :: rest) bytes after

variable {feed after : Feed} {b : UInt8} {bs more bad : Bytes} {c : Char} {text : List Char} {n : Nat}

theorem byte_interrupted {cause : Fault} {rest : Feed} (h : cause.kind = .interrupted) :
    byte (.fault cause :: rest) = byte rest := by
  rw [byte, if_pos h]

theorem Delivers.byte (h : Delivers feed (b :: bs) after) :
    ∃ rest, Feed.byte feed = (.ok (some b), rest) ∧ Delivers rest bs after := by
  generalize hb : b :: bs = bytes at h
  induction h with
  | done => simp at hb
  | @fill chunk bytes rest after nonempty more ih =>
    obtain ⟨a, chunk, rfl⟩ := List.exists_cons_of_ne_nil nonempty
    obtain ⟨rfl, rfl⟩ := List.cons.inj hb
    refine ⟨_, rfl, ?_⟩
    cases chunk with
    | nil => exact more
    | cons a chunk => exact .fill (by simp) more
  | interrupted kind more ih =>
    rw [byte_interrupted kind]
    exact ih hb

theorem Delivers.byte_nil (h : Delivers feed [] after) : Feed.byte feed = Feed.byte after := by
  generalize hb : ([] : Bytes) = bytes at h
  induction h with
  | done => rfl
  | fill nonempty more ih => exact absurd (List.append_eq_nil_iff.mp hb.symm).1 nonempty
  | interrupted kind more ih => rw [byte_interrupted kind, ih hb]

theorem Delivers.bytes (h : Delivers feed (bs ++ more) after) :
    ∃ rest, Feed.bytes bs.length feed = (.ok bs, rest) ∧ Delivers rest more after := by
  induction bs generalizing feed with
  | nil => exact ⟨feed, rfl, h⟩
  | cons b bs ih =>
    obtain ⟨rest, hb, hrest⟩ := h.byte
    obtain ⟨last, hbs, hlast⟩ := ih hrest
    refine ⟨last, ?_, hlast⟩
    rw [List.length_cons, Feed.bytes, hb]
    simp only [hbs, Except.map]

/-- What is met when a byte is wanted behind the delivery and there is none. -/
def Ends (after : Feed) (fault : Fault) : Prop :=
  (after = [] ∧ fault = truncated) ∨
    ∃ rest, after = .fault fault :: rest ∧ fault.kind ≠ .interrupted

theorem Delivers.bytes_short {fault : Fault} (h : Delivers feed bs after) (he : Ends after fault)
    (hn : bs.length < n) : (Feed.bytes n feed).1 = .error fault := by
  induction bs generalizing feed n with
  | nil =>
    obtain ⟨n, rfl⟩ := Nat.exists_eq_add_one.mpr hn
    rw [Feed.bytes, h.byte_nil]
    rcases he with ⟨rfl, rfl⟩ | ⟨rest, rfl, hk⟩
    · rfl
    · rw [Feed.byte, if_neg hk]
  | cons b bs ih =>
    obtain ⟨rest, hb, hrest⟩ := h.byte
    obtain ⟨n, rfl⟩ := Nat.exists_eq_add_one.mpr (Nat.zero_lt_of_lt hn)
    rw [Feed.bytes, hb]
    simp only [ih hrest (Nat.lt_of_succ_lt_succ hn), Except.map]

theorem Delivers.read (h : Delivers feed (String.utf8EncodeChar c ++ more) after) :
    ∃ rest, Feed.read feed = (.char c, rest) ∧ Delivers rest more after := by
  obtain ⟨lead, tail, hc⟩ := List.exists_cons_of_ne_nil (String.utf8EncodeChar_ne_nil (c := c))
  obtain ⟨hwidth, hsequence⟩ := Utf8.sequence_encodeChar hc
  rw [hc] at h
  obtain ⟨rest, hlead, hrest⟩ := h.byte
  obtain ⟨last, htail, hlast⟩ := hrest.bytes
  refine ⟨last, ?_, hlast⟩
  simp only [Feed.read, hlead, hwidth, Nat.add_sub_cancel, htail, hsequence]

theorem Delivers.readings (h : Delivers feed (Utf8.encode text ++ more) after) :
    ∃ rest, Feed.readings feed = text.map .char ++ Feed.readings rest ∧
      Delivers rest more after := by
  induction text generalizing feed with
  | nil => exact ⟨feed, rfl, h⟩
  | cons c text ih =>
    have he : Utf8.encode (c :: text) = String.utf8EncodeChar c ++ Utf8.encode text := rfl
    rw [he, List.append_assoc] at h
    obtain ⟨next, hread, hnext⟩ := h.read
    obtain ⟨rest, hreadings, hrest⟩ := ih hnext
    refine ⟨rest, ?_, hrest⟩
    have hne : feed ≠ [] := by
      rintro rfl
      simp [Feed.read, Feed.byte] at hread
    rw [readings_of_ne_nil hne, hread, hreadings]
    rfl

theorem Delivers.readings_nil (h : Delivers feed [] []) :
    ∃ n, Feed.readings feed = List.replicate n .finish := by
  by_cases hne : feed = []
  · exact ⟨0, by rw [hne, Feed.readings_nil]; rfl⟩
  · refine ⟨1, ?_⟩
    have hread : Feed.read feed = (.finish, []) := by
      rw [Feed.read, h.byte_nil, Feed.byte]
    rw [readings_of_ne_nil hne, hread, Feed.readings_nil]
    rfl

/-- The feed hands out the bytes in fills that are not empty, and nothing else. -/
inductive Chunked : Feed → Bytes → Prop
  | nil : Chunked [] []
  | cons {chunk bytes : Bytes} {rest : Feed} (nonempty : chunk ≠ []) (more : Chunked rest bytes) :
      Chunked (.bytes chunk :: rest) (chunk ++ bytes)

/-- Two feeds of the same bytes, whether they are text or not. -/
def SameBytes (feed feed' : Feed) : Prop := ∃ bytes, Chunked feed bytes ∧ Chunked feed' bytes

variable {feed' : Feed}

theorem Chunked.delivers_append (h : Chunked feed bs) (after : Feed) :
    Delivers (feed ++ after) bs after := by
  induction h with
  | nil => exact .done
  | cons nonempty more ih => exact .fill nonempty ih

theorem Chunked.delivers (h : Chunked feed bs) : Delivers feed bs [] :=
  List.append_nil feed ▸ h.delivers_append []

theorem chunked_ofChunks {chunks : List Bytes} (h : [] ∉ chunks) :
    Chunked (ofChunks chunks) chunks.flatten := by
  induction chunks with
  | nil => exact .nil
  | cons chunk chunks ih =>
    have hchunk : chunk ≠ [] := fun he => h (he ▸ List.mem_cons_self)
    exact .cons hchunk (ih fun hmem => h (List.mem_cons_of_mem _ hmem))

theorem Chunked.eq_nil_iff (h : Chunked feed bs) : feed = [] ↔ bs = [] := by
  cases h with
  | nil => simp
  | cons nonempty more => simp [nonempty]

theorem Chunked.byte_nil (h : Chunked feed []) : Feed.byte feed = (.ok none, []) :=
  h.delivers.byte_nil

theorem Chunked.byte (h : Chunked feed (b :: bs)) :
    ∃ rest, Feed.byte feed = (.ok (some b), rest) ∧ Chunked rest bs := by
  generalize hb : b :: bs = bytes at h
  cases h with
  | nil => simp at hb
  | @cons chunk bytes rest nonempty more =>
    obtain ⟨a, chunk, rfl⟩ := List.exists_cons_of_ne_nil nonempty
    obtain ⟨rfl, rfl⟩ := List.cons.inj hb
    refine ⟨_, rfl, ?_⟩
    cases chunk with
    | nil => exact more
    | cons a chunk => exact .cons (by simp) more

theorem SameBytes.byte (h : SameBytes feed feed') : (Feed.byte feed).1 = (Feed.byte feed').1 ∧
    SameBytes (Feed.byte feed).2 (Feed.byte feed').2 := by
  obtain ⟨bytes, hchunks, hchunks'⟩ := h
  cases bytes with
  | nil =>
    rw [hchunks.byte_nil, hchunks'.byte_nil]
    exact ⟨rfl, [], .nil, .nil⟩
  | cons b bs =>
    obtain ⟨rest, hbyte, hrest⟩ := hchunks.byte
    obtain ⟨rest', hbyte', hrest'⟩ := hchunks'.byte
    rw [hbyte, hbyte']
    exact ⟨rfl, bs, hrest, hrest'⟩

theorem SameBytes.bytes (h : SameBytes feed feed') (n : Nat) :
    (Feed.bytes n feed).1 = (Feed.bytes n feed').1 ∧
      SameBytes (Feed.bytes n feed).2 (Feed.bytes n feed').2 := by
  induction n generalizing feed feed' with
  | zero => exact ⟨rfl, h⟩
  | succ n ih =>
    obtain ⟨hresult, hrest⟩ := h.byte
    rw [Feed.bytes, Feed.bytes]
    generalize Feed.byte feed = r at hresult hrest ⊢
    generalize Feed.byte feed' = r' at hresult hrest ⊢
    obtain ⟨result, rest⟩ := r
    obtain ⟨_, rest'⟩ := r'
    obtain rfl := hresult
    obtain ⟨htail, hlast⟩ := ih hrest
    cases result with
    | error cause => exact ⟨rfl, hrest⟩
    | ok next =>
      cases next with
      | none => exact ⟨rfl, hrest⟩
      | some b => exact ⟨congrArg (Except.map (b :: ·)) htail, hlast⟩

theorem SameBytes.read (h : SameBytes feed feed') : (Feed.read feed).1 = (Feed.read feed').1 ∧
    SameBytes (Feed.read feed).2 (Feed.read feed').2 := by
  obtain ⟨hresult, hrest⟩ := h.byte
  rw [Feed.read, Feed.read]
  generalize Feed.byte feed = r at hresult hrest ⊢
  generalize Feed.byte feed' = r' at hresult hrest ⊢
  obtain ⟨result, rest⟩ := r
  obtain ⟨_, rest'⟩ := r'
  obtain rfl := hresult
  cases result with
  | error cause => exact ⟨rfl, hrest⟩
  | ok next =>
    cases next with
    | none => exact ⟨rfl, hrest⟩
    | some lead =>
      simp only
      cases Utf8.width lead with
      | none => exact ⟨rfl, hrest⟩
      | some width =>
        obtain ⟨htail, hlast⟩ := hrest.bytes (width - 1)
        simp only
        generalize Feed.bytes (width - 1) rest = t at htail hlast ⊢
        generalize Feed.bytes (width - 1) rest' = t' at htail hlast ⊢
        obtain ⟨tail, last⟩ := t
        obtain ⟨_, last'⟩ := t'
        obtain rfl := htail
        cases tail with
        | error cause => exact ⟨rfl, hlast⟩
        | ok tail =>
          simp only
          cases Utf8.sequence (lead :: tail) with
          | error length => exact ⟨rfl, hlast⟩
          | ok c => exact ⟨rfl, hlast⟩

theorem SameBytes.eq_nil_iff (h : SameBytes feed feed') : feed = [] ↔ feed' = [] := by
  obtain ⟨bytes, hchunks, hchunks'⟩ := h
  rw [hchunks.eq_nil_iff, hchunks'.eq_nil_iff]

/-- What is read does not depend on where the bytes are cut. -/
theorem SameBytes.readings (h : SameBytes feed feed') :
    Feed.readings feed = Feed.readings feed' := by
  induction feed using Feed.readings.induct generalizing feed' with
  | case1 => rw [h.eq_nil_iff.mp rfl]
  | case2 feed hne ih =>
    obtain ⟨hresult, hrest⟩ := h.read
    have hne' : feed' ≠ [] := fun he => hne (h.eq_nil_iff.mpr he)
    rw [readings_of_ne_nil hne, readings_of_ne_nil hne', hresult, ih hrest]

end TokenDump.Feed
