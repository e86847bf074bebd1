import TokenDump.Span
import TokenDump.Token.Basic
import TokenDump.Settings.Basic
import TokenDump.Json.Value

/-! # Lines of a dump

A token takes one line: its kind and text after labels, or a JSON object. The place where the token
starts is added on demand. -/
namespace TokenDump.Dump

/-- Ends every line. -/
def separator : String := "\n"

/-- A token as a JSON object. -/
def tokenValue (t : Located Token) (positions : Bool) : Json.Value :=
  .record <|
    [("kind", .ofString t.value.kind.name), ("text", .ofString t.value.text)] ++
    if positions then
      [("line", .ofNat t.span.start.line), ("column", .ofNat t.span.start.column)]
    else []

/-- The line of a token, without the separator. -/
def line (t : Located Token) (settings : Settings.Dumping) : String :=
  match settings.format with
  | .json => (tokenValue t settings.positions).compact
  | .text =>
    if settings.positions then t.value.render ++ " @ " ++ t.span.start.render
    else t.value.render

end TokenDump.Dump
