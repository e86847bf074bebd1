import Mathlib.Algebra.GroupWithZero.Nat
import Mathlib.Data.List.DropRight
import TokenDump.Span
import TokenDump.Text.Utf8

/-! # Coordinates

The position behind a text in closed form: the bytes of the text, its newlines, and the columns that
its last row takes. Behind two beginnings of one text the positions are in the order of the
beginnings, and the span between them is sliced out of the text without cutting a character. -/
namespace TokenDump

namespace Utf8

variable {start text : List Char}

theorem size_append (s t : List Char) : size (s ++ t) = size s + size t := by
  induction s with
  | nil => simp [size]
  | cons c s ih =>
    simp only [List.cons_append, size, ih]
    omega

theorem length_le_size (text : List Char) : text.length ≤ size text := by
  induction text with
  | nil => exact Nat.le_refl 0
  | cons c text ih =>
    have := c.utf8Size_pos
    simp only [List.length_cons, size]
    omega

theorem size_pos (h : text ≠ []) : 0 < size text :=
  (List.length_pos_iff.mpr h).trans_le (length_le_size text)

theorem size_le_of_prefix (h : start <+: text) : size start ≤ size text := by
  obtain ⟨rest, rfl⟩ := h
  rw [size_append]
  exact Nat.le_add_right _ _

end Utf8

namespace Position

variable {p q : Position} {text u v : List Char}

theorem offset_advanceOver (p : Position) (text : List Char) :
    (p.advanceOver text).offset = p.offset + Utf8.size text := by
  induction text generalizing p with
  | nil => rfl
  | cons c text ih =>
    rw [advanceOver_cons, ih, offset_advance, Utf8.size]
    omega

theorem offset_start_advanceOver (text : List Char) :
    (start.advanceOver text).offset = Utf8.size text :=
  (offset_advanceOver start text).trans (Nat.zero_add _)

theorem line_advance (p : Position) (c : Char) :
    (p.advance c).line = p.line + [c].count '\n' := by
  unfold advance
  split <;> simp_all

theorem line_advanceOver (p : Position) (text : List Char) :
    (p.advanceOver text).line = p.line + text.count '\n' := by
  induction text generalizing p with
  | nil => rfl
  | cons c text ih =>
    rw [advanceOver_cons, ih, line_advance, Nat.add_assoc, ← List.count_append]
    rfl

/-! ## Columns -/

/-- A newline and a carriage return go back to the first column. -/
def endsRow (c : Char) : Bool := c == '\n' || c == '\r'

/-- What stands behind the last newline or carriage return of a text. -/
def lastRow (text : List Char) : List Char := text.rtakeWhile fun c => !endsRow c

/-- The columns that a character takes on its row. -/
def columns (c : Char) : Nat := if c = '\t' then 4 else 1

theorem sum_columns_le (row : List Char) : (row.map columns).sum ≤ 4 * row.length := by
  induction row with
  | nil => exact Nat.le_refl 0
  | cons c row ih =>
    have hc : columns c ≤ 4 := by unfold columns; split <;> decide
    simp only [List.map_cons, List.sum_cons, List.length_cons]
    omega

theorem column_advance (p : Position) (c : Char) :
    (p.advance c).column = if endsRow c then 1 else p.column + columns c := by
  unfold advance
  split <;> simp_all [endsRow, columns, tabWidth]

theorem lastRow_append_singleton (text : List Char) (c : Char) :
    lastRow (text ++ [c]) = if endsRow c then [] else lastRow text ++ [c] := by
  cases h : endsRow c <;> simp [lastRow, h]

theorem lastRow_suffix (text : List Char) : lastRow text <:+ text :=
  List.rtakeWhile_suffix _ text

theorem column_start_advanceOver (text : List Char) :
    (start.advanceOver text).column = 1 + ((lastRow text).map columns).sum := by
  induction text using List.reverseRecOn with
  | nil => rfl
  | append_singleton text c ih =>
    rw [advanceOver_append, advanceOver_cons, advanceOver_nil, column_advance,
      lastRow_append_singleton]
    split
    · rfl
    · rw [ih, List.map_append, List.sum_append, List.map_singleton, List.sum_singleton,
        Nat.add_assoc]

theorem start_advanceOver (text : List Char) :
    start.advanceOver text =
      ⟨Utf8.size text, 1 + text.count '\n', 1 + ((lastRow text).map columns).sum⟩ := by
  have hline : (start.advanceOver text).line = 1 + text.count '\n' := line_advanceOver start text
  rw [← offset_start_advanceOver, ← column_start_advanceOver, ← hline]

/-- In a text of less than 2³⁰ bytes no number of a position goes beyond 32 bits. -/
theorem start_advanceOver_lt (h : Utf8.size text < 2 ^ 30) :
    (start.advanceOver text).offset < 2 ^ 32 ∧ (start.advanceOver text).line < 2 ^ 32 ∧
      (start.advanceOver text).column < 2 ^ 32 := by
  have hlength : text.length ≤ Utf8.size text := Utf8.length_le_size text
  have hlines : text.count '\n' ≤ text.length := List.count_le_length
  have hrow : (lastRow text).length ≤ text.length := (lastRow_suffix text).length_le
  have hcolumns := sum_columns_le (lastRow text)
  rw [start_advanceOver]
  refine ⟨?_, ?_, ?_⟩ <;> simp only <;> omega

/-! ## Order -/

instance : Std.TransOrd Position :=
  inferInstanceAs (Std.TransCmp (compareLex (compareOn offset)
    (compareLex (compareOn line) (compareOn column))))

theorem compare_of_offset_lt (h : p.offset < q.offset) : compare p q = .lt := by
  have hoffset : compare p.offset q.offset = .lt := Nat.compare_eq_lt.mpr h
  simp only [compare] at hoffset ⊢
  rw [hoffset, Ordering.lt_then]

theorem compare_of_shorter (hu : u <+: text) (hv : v <+: text) (h : u.length < v.length) :
    compare (start.advanceOver u) (start.advanceOver v) = .lt := by
  obtain ⟨between, rfl⟩ := List.prefix_of_prefix_length_le hu hv h.le
  have hne : between ≠ [] := by
    rintro rfl
    simp at h
  have hsize : 0 < Utf8.size between := Utf8.size_pos hne
  apply compare_of_offset_lt
  rw [offset_start_advanceOver, offset_start_advanceOver, Utf8.size_append]
  omega

theorem compare_beginnings (hu : u <+: text) (hv : v <+: text) :
    compare (start.advanceOver u) (start.advanceOver v) = compare u.length v.length := by
  rcases Nat.lt_trichotomy u.length v.length with hlt | heq | hgt
  · rw [compare_of_shorter hu hv hlt, Nat.compare_eq_lt.mpr hlt]
  · obtain rfl := (List.prefix_of_prefix_length_le hu hv heq.le).eq_of_length heq
    rw [Std.compare_self, Std.compare_self]
  · rw [Std.OrientedCmp.gt_iff_lt.mpr (compare_of_shorter hv hu hgt), Nat.compare_eq_gt.mpr hgt]

end Position

/-! ## Slices -/

namespace Span

theorem splitAtByte_size (before after : List Char) :
    splitAtByte (Utf8.size before) (before ++ after) = some (before, after) := by
  induction before with
  | nil => simp [Utf8.size, splitAtByte]
  | cons c before ih =>
    obtain ⟨n, hn⟩ : ∃ n, Utf8.size (c :: before) = n + 1 :=
      Nat.exists_eq_add_one.mpr (Utf8.size_pos (by simp))
    have hsize : n + 1 = c.utf8Size + Utf8.size before := hn.symm
    have hrest : n + 1 - c.utf8Size = Utf8.size before := by omega
    rw [hn, List.cons_append, splitAtByte, if_pos (by omega), hrest, ih]
    rfl

/-- Both ends of the span are between characters of the text. -/
theorem slice_between (before covered after : List Char) :
    slice ⟨Position.start.advanceOver before, Position.start.advanceOver (before ++ covered)⟩
      (before ++ (covered ++ after)) = some covered := by
  rw [slice, length, Position.offset_start_advanceOver, Position.offset_start_advanceOver,
    Utf8.size_append, Nat.add_sub_cancel_left, splitAtByte_size, if_neg (by omega)]
  simp [splitAtByte_size]

end Span

namespace Position

/-- The offset behind a text counts its bytes, the line its newlines, from one, and the column what
its last row takes, from one. The positions behind two beginnings of the text are ordered as the
beginnings are by length, and what the longer one has more is sliced out by the span between. -/
theorem advanceOver_coordinates (text : List Char) :
    start.advanceOver text = ⟨(Utf8.encode text).length, 1 + text.count '\n',
      1 + ((lastRow text).map columns).sum⟩ ∧
    ∀ u v, u <+: text → v <+: text →
      (compare (start.advanceOver u) (start.advanceOver v) = .lt ↔ u.length < v.length) ∧
      (u.length ≤ v.length → ∃ between, u ++ between = v ∧
        Span.slice ⟨start.advanceOver u, start.advanceOver v⟩ text = some between) := by
  constructor
  · rw [Utf8.length_encode, start_advanceOver]
  · intro u v hu hv
    constructor
    · rw [compare_beginnings hu hv, Nat.compare_eq_lt]
    · intro hle
      obtain ⟨between, rfl⟩ := List.prefix_of_prefix_length_le hu hv hle
      obtain ⟨after, rfl⟩ := hv
      rw [List.append_assoc]
      exact ⟨between, rfl, Span.slice_between u between after⟩

theorem advanceOver_coordinates_rows :
    let text := "\u00e9\n\tx\ry\t\u00df".toList
    let u := text.take 1
    let v := text.take 7
    u <+: text ∧ v <+: text ∧ u.length ≤ v.length ∧ start.advanceOver text = ⟨10, 2, 7⟩ ∧
      compare (start.advanceOver u) (start.advanceOver v) = .lt ∧
      Span.slice ⟨start.advanceOver u, start.advanceOver v⟩ text = some "\n\tx\ry\t".toList := by
  intro text u v
  have hu : u <+: text := List.take_prefix 1 text
  have hv : v <+: text := List.take_prefix 7 text
  have hle : u.length ≤ v.length := by decide
  obtain ⟨hend, hbeginnings⟩ := advanceOver_coordinates text
  obtain ⟨horder, hslice⟩ := hbeginnings u v hu hv
  obtain ⟨between, hbetween, hcovered⟩ := hslice hle
  have hsame : between = "\n\tx\ry\t".toList :=
    List.append_cancel_left (hbetween.trans (show v = u ++ "\n\tx\ry\t".toList by decide))
  exact ⟨hu, hv, hle, hend.trans (by decide), horder.mpr (by decide), hsame ▸ hcovered⟩

/-- An offset inside a character is behind no beginning of the text, and nothing is sliced there. -/
example : Span.slice ⟨⟨1, 1, 2⟩, ⟨2, 1, 3⟩⟩ ['\u00e9'] = none := by decide

end Position
end TokenDump
