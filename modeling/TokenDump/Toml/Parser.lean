import TokenDump.Toml.Scalar
import TokenDump.Toml.Table

/-! # Reading TOML

A document is read line by line into statements, and the statements define it. -/
namespace TokenDump.Toml

/-- Passes blanks, comments and ends of lines between the items of an array. -/
def skipSpace (cs : List Char) : List Char :=
  match _h : newline? (skipComment (skipBlanks cs)) with
  | some rest => skipSpace rest
  | none => skipComment (skipBlanks cs)
termination_by cs.length
decreasing_by
  have := length_newline? _h
  have := length_skipComment_le (skipBlanks cs)
  have := length_skipBlanks_le cs
  omega

/-- The items of an array after its opening bracket; the number bounds them. A comma may stand
behind the last one. -/
def arrayItems (value : Reader Value) : Nat → List Char → Option (List Value × List Char)
  | 0, _ => none
  | most + 1, cs =>
    match skipSpace cs with
    | ']' :: rest => some ([], rest)
    | start => do
      let (v, rest) ← value start
      match skipSpace rest with
      | ']' :: rest => return ([v], rest)
      | ',' :: rest =>
        let (vs, rest) ← arrayItems value most rest
        return (v :: vs, rest)
      | _ => none

/-- A key, an equals sign and a value. -/
def assignment (value : Reader Value) : Reader (List String × String × Value) := fun cs => do
  let ((path, name), rest) ← key cs
  let '=' :: rest := skipBlanks rest | none
  let (v, rest) ← value (skipBlanks rest)
  return ((path, name, v), rest)

/-- The assignments of a table between braces, after the first brace; at least one is there, and the
number bounds them. -/
def inlineItems (value : Reader Value) :
    Nat → List Char → Option (List (List String × String × Value) × List Char)
  | 0, _ => none
  | most + 1, cs => do
    let (a, rest) ← assignment value cs
    match skipBlanks rest with
    | '\x7d' :: rest => return ([a], rest)
    | ',' :: rest =>
      let (as, rest) ← inlineItems value most rest
      return (a :: as, rest)
    | _ => none

/-- A value, in which arrays and tables are nested at most `depth` deep; `size` bounds their
items. -/
def value (size : Nat) : Nat → Reader Value
  | 0 => scalar
  | depth + 1 => fun cs =>
    match cs with
    | '[' :: rest => do
      let (vs, rest) ← arrayItems (value size depth) size rest
      return (.array vs, rest)
    | '\x7b' :: rest =>
      match skipBlanks rest with
      | '\x7d' :: rest => some (.table [], rest)
      | _ => do
        let (as, rest) ← inlineItems (value size depth) size rest
        let entries ← defineInline? as
        return (.table entries, rest)
    | cs => scalar cs

/-- Deepest nesting of arrays and tables within a value. -/
def depthLimit : Nat := 79

/-- The statement at the start of a line that is not empty, without the end of the line. -/
def statement (size : Nat) : Reader Statement
  | '[' :: '[' :: rest => do
    let ((path, name), rest) ← key rest
    let ']' :: ']' :: rest := rest | none
    return (.arrayHeader path name, rest)
  | '[' :: rest => do
    let ((path, name), rest) ← key rest
    let ']' :: rest := rest | none
    return (.header path name, rest)
  | cs => do
    let ((path, name, v), rest) ← assignment (value size depthLimit) cs
    return (.assign path name v, rest)

/-- The statements of a text, line by line; `most` bounds the lines, `size` the items of values. -/
def statements (size : Nat) : Nat → List Char → Option (List Statement)
  | 0, _ => none
  | most + 1, cs =>
    match skipBlanks cs with
    | [] => some []
    | start =>
      if start.head? = some '#' || (newline? start).isSome then do
        let rest ← lineEnd? start
        statements size most rest
      else do
        let (s, rest) ← statement size start
        let rest ← lineEnd? rest
        let ss ← statements size most rest
        return s :: ss

/-- The document that a text spells. A byte order mark may stand in front. Every line and every item
takes a character at least, so the text's own length bounds them. -/
def parse? (text : String) : Option Document := do
  let cs := match text.toList with
    | '\uFEFF' :: rest => rest
    | cs => cs
  let size := text.length + 2
  define? (← statements size size cs)

end TokenDump.Toml
