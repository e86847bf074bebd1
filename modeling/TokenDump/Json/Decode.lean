import TokenDump.Decimal.Digits
import TokenDump.Json.Parser

/-! # Decoding JSON values

How values of fixed shape are read from JSON: a record is an object whose unknown members are passed
over, or an array of its fields in order; a choice between names is a string, or an object with the
name as its only key and `null` behind it. -/
namespace TokenDump.Json

/-- An integer without sign, at most `limit`, spelled in digits alone. -/
def nat? (limit : Nat) : Value → Option Nat
  | .number spelling =>
    if spelling.toList.all Char.isDigit then
      let n := Decimal.ofDigitChars limit spelling.toList
      if n ≤ limit then some n else none
    else none
  | _ => none

def boolean? : Value → Option Bool
  | .boolean b => some b
  | _ => none

def string? : Value → Option String
  | .string (.text content) => some content
  | _ => none

/-- The name that a choice between names gives. -/
def choice? : Value → Option String
  | .string (.text name) => some name
  | .object [(.text name, .null)] => some name
  | _ => none

/-- The values of the members with this key. -/
def valuesOf (key : String) (members : List (Literal × Value)) : List Value :=
  members.filterMap fun (k, v) => if k = .text key then some v else none

/-- The fields of a record, in order, each with its value if it has one. Refused are a repeated
known field, a key without text, and an array that is too long. -/
def fields? (names : List String) : Value → Option (List (Option Value))
  | .object members =>
    if members.any (·.1 = .unpaired) then none
    else names.mapM fun name =>
      match valuesOf name members with
      | [] => some none
      | [v] => some (some v)
      | _ => none
  | .array items =>
    if items.length ≤ names.length then
      some ((List.range names.length).map (items[·]?))
    else none
  | _ => none

/-- The fields of a record none of which may be missing. -/
def required? (names : List String) (v : Value) : Option (List Value) := do
  (← fields? names v).mapM id

end TokenDump.Json
