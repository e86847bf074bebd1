import TokenDump.Decimal.Binary64

/-! # TOML values

A document is a table; tables keep their keys in the order in which they were defined. Of a point in
time only is known that it is one. -/
namespace TokenDump.Toml

inductive Real where
  | number (value : Decimal.Binary64)
  | notANumber
deriving DecidableEq

inductive Value where
  | string (text : String)
  | integer (value : Int)
  | float (value : Real)
  | boolean (b : Bool)
  | datetime
  | array (items : List Value)
  | table (entries : List (String × Value))
  /-- An array of tables that was written with headers. -/
  | tables (items : List (List (String × Value)))

abbrev Document := List (String × Value)

/-- What a document is made of, line by line. -/
inductive Statement where
  /-- A value for a key, which may be dotted: the tables on the way, and the key itself. -/
  | assign (path : List String) (key : String) (value : Value)
  /-- A header that opens a table. -/
  | header (path : List String) (key : String)
  /-- A header that opens one more table of an array. -/
  | arrayHeader (path : List String) (key : String)

end TokenDump.Toml
