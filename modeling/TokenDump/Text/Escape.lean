import TokenDump.Unicode.Property

/-! # Escaped text

Text made visible for a log line or between quotes: controls, characters without a printed form and
the quoting characters are written as escapes. -/
namespace TokenDump.Text

/-- The digits of a number in base sixteen, in lower case. -/
def hex (n : Nat) : String := String.ofList (Nat.toDigits 16 n)

def codePoint (c : Char) : String := "\\u\x7b" ++ hex c.toNat ++ "\x7d"

/-- One character as it is shown. `attached` says whether a combining character may stand as it is,
because there is a character before it that it belongs to; `single` whether a single quote is
escaped. -/
def shown (attached single : Bool) (c : Char) : String :=
  match c with
  | '\x00' => "\\0"
  | '\t' => "\\t"
  | '\r' => "\\r"
  | '\n' => "\\n"
  | '\\' => "\\\\"
  | '"' => "\\\""
  | '\'' => if single then "\\'" else "'"
  | c =>
    if !attached && Unicode.isCombining c then codePoint c
    else if Unicode.isPrintable c then c.toString
    else codePoint c

/-- A text as it appears in a log line; a combining character is escaped only at the very start. -/
def escape (text : String) : String :=
  match text.toList with
  | [] => ""
  | c :: rest => shown false true c ++ String.join (rest.map (shown true true))

/-- A text between double quotes, every combining character escaped. -/
def quote (text : String) : String :=
  "\"" ++ String.join (text.toList.map (shown false false)) ++ "\""

end TokenDump.Text
