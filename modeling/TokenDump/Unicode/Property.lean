import TokenDump.Unicode.Alphabetic
import TokenDump.Unicode.Numeric
import TokenDump.Unicode.GraphemeExtend
import TokenDump.Unicode.Unprintable

/-! # Character properties

The properties that scanning and escaping ask for. ASCII is decided by its own letters and
digits, everything else by the property tables. -/
namespace TokenDump.Unicode

/-- Whether one of the inclusive ranges holds the code point of `c`. -/
def within (ranges : List (Nat × Nat)) (c : Char) : Bool :=
  ranges.any fun (low, high) => low ≤ c.toNat && c.toNat ≤ high

def isAscii (c : Char) : Bool := c.toNat < 0x80

/-- The property Alphabetic. -/
def isAlphabetic (c : Char) : Bool :=
  if isAscii c then c.isAlpha else within alphabeticRanges c

/-- One of the categories Nd, Nl and No. -/
def isNumeric (c : Char) : Bool :=
  if isAscii c then c.isDigit else within numericRanges c

/-- A letter or a number of any script. -/
def isAlphanumeric (c : Char) : Bool := isAlphabetic c || isNumeric c

/-- The sound marks of halfwidth kana, which are letters and take a place of their own in a line,
although they have the property Grapheme_Extend. -/
def isHalfwidthSoundMark (c : Char) : Bool := c == '\uff9e' || c == '\uff9f'

/-- Whether `c` is drawn onto the character before it. -/
def isCombining (c : Char) : Bool :=
  !isAscii c && within graphemeExtendRanges c && !isHalfwidthSoundMark c

/-- Whether `c` has a printed form of its own; of the separators only the space has one. -/
def isPrintable (c : Char) : Bool :=
  if isAscii c then 0x20 ≤ c.toNat && c.toNat < 0x7F
  else !within unprintableRanges c && !within fillerRanges c

end TokenDump.Unicode
