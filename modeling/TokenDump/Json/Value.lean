/-! # JSON values

A value keeps what its text says: numbers as they are spelled, members in order, repeated keys
included. Its printed form has no blanks, and escapes only what has to be escaped. -/
namespace TokenDump.Json

/-- The content of a string literal. Escapes can spell a surrogate without its partner; such a
literal is well formed but stands for no text. -/
inductive Literal where
  | text (content : String)
  | unpaired
deriving DecidableEq

inductive Value where
  | null
  | boolean (b : Bool)
  | number (spelling : String)
  | string (content : Literal)
  | array (items : List Value)
  | object (members : List (Literal × Value))

namespace Value

def ofNat (n : Nat) : Value := .number (toString n)

def ofString (s : String) : Value := .string (.text s)

/-- An object with the given keys and values. -/
def record (fields : List (String × Value)) : Value :=
  .object (fields.map fun (key, value) => (.text key, value))

end Value

/-- One character inside a string literal. -/
def escapeChar (c : Char) : List Char :=
  match c with
  | '"' => ['\\', '"']
  | '\\' => ['\\', '\\']
  | '\x08' => ['\\', 'b']
  | '\t' => ['\\', 't']
  | '\n' => ['\\', 'n']
  | '\x0c' => ['\\', 'f']
  | '\r' => ['\\', 'r']
  | c =>
    if c.toNat < 0x20 then
      ['\\', 'u', '0', '0', Nat.digitChar (c.toNat / 16), Nat.digitChar (c.toNat % 16)]
    else [c]

/-- A text as a string literal. -/
def quote (s : String) : List Char := '"' :: s.toList.flatMap escapeChar ++ ['"']

def Literal.print : Literal → List Char
  | .text content => quote content
  | .unpaired => quote "" |>.dropLast |>.append "\\ud800\"".toList

mutual

/-- The compact form of a value. -/
def Value.print : Value → List Char
  | .null => "null".toList
  | .boolean true => "true".toList
  | .boolean false => "false".toList
  | .number spelling => spelling.toList
  | .string content => content.print
  | .array items => '[' :: printItems items
  | .object members => '\x7b' :: printMembers members

/-- The items of an array and its closing bracket. -/
def printItems : List Value → List Char
  | [] => [']']
  | [item] => item.print ++ [']']
  | item :: next :: rest => item.print ++ ',' :: printItems (next :: rest)

/-- The members of an object and its closing brace. -/
def printMembers : List (Literal × Value) → List Char
  | [] => ['\x7d']
  | [(key, value)] => key.print ++ ':' :: value.print ++ ['\x7d']
  | (key, value) :: next :: rest =>
    key.print ++ ':' :: value.print ++ ',' :: printMembers (next :: rest)

end

def Value.compact (v : Value) : String := String.ofList v.print

end TokenDump.Json
