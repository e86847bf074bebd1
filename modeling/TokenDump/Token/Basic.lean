import TokenDump.Token.Kind

/-! # Tokens

A token is a kind with the text that it carries. -/
namespace TokenDump

structure Token where
  kind : Kind
  text : String
deriving DecidableEq

namespace Token

/-- The token that ends every source. -/
def eof : Token := ⟨.eof, ""⟩

def illegal (text : String) : Token := ⟨.illegal, text⟩

def isEof (t : Token) : Bool := t.kind == .eof

def isIllegal (t : Token) : Bool := t.kind == .illegal

/-- A quote that no other quote closes. -/
def unclosedString : Token := illegal "\""

/-- The start of a block comment that nothing closes. -/
def unclosedComment : Token := illegal "/*"

def render (t : Token) : String := "Type: " ++ t.kind.name ++ " | Literal: " ++ t.text

end Token
end TokenDump
