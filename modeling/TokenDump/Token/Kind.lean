/-! # Kinds of tokens

Identifiers, numbers and strings, fourteen reserved words, eleven operators, six delimiters, and the
two kinds that stand for text that is no token and for the end of the source. -/
namespace TokenDump

inductive Keyword where
  | let_ | function | for_ | while_ | if_ | else_ | void | true_ | false_
  | return_ | continue_ | break_ | print | input
deriving DecidableEq

inductive Operator where
  | plus | minus | assign | increment | decrement | equal | notEqual
  | greater | less | greaterEqual | lessEqual
deriving DecidableEq

inductive Delimiter where
  | leftParen | rightParen | leftBrace | rightBrace | comma | semicolon
deriving DecidableEq

inductive Kind where
  | identifier
  | number
  | string
  | keyword (word : Keyword)
  | operator (op : Operator)
  | delimiter (mark : Delimiter)
  | illegal
  | eof
deriving DecidableEq

/-- The families that kinds fall into. -/
inductive Kind.Family where
  | literal | keyword | operator | delimiter | sentinel
deriving DecidableEq

namespace Keyword

def all : List Keyword :=
  [.let_, .function, .for_, .while_, .if_, .else_, .void, .true_, .false_, .return_, .continue_,
   .break_, .print, .input]

/-- The word as it is written in source text. -/
def spelling : Keyword → String
  | .let_ => "let"
  | .function => "function"
  | .for_ => "for"
  | .while_ => "while"
  | .if_ => "if"
  | .else_ => "else"
  | .void => "void"
  | .true_ => "true"
  | .false_ => "false"
  | .return_ => "return"
  | .continue_ => "continue"
  | .break_ => "break"
  | .print => "print"
  | .input => "input"

/-- The reserved word with exactly this spelling. -/
def ofSpelling? (word : String) : Option Keyword := all.find? (·.spelling == word)

/-- Upper-case name and title of a reserved word. -/
def names : Keyword → String × String
  | .let_ => ("LET", "Let")
  | .function => ("FUNCTION", "Function")
  | .for_ => ("FOR", "For")
  | .while_ => ("WHILE", "While")
  | .if_ => ("IF", "If")
  | .else_ => ("ELSE", "Else")
  | .void => ("VOID", "Void")
  | .true_ => ("TRUE", "True")
  | .false_ => ("FALSE", "False")
  | .return_ => ("RETURN", "Return")
  | .continue_ => ("CONTINUE", "Continue")
  | .break_ => ("BREAK", "Break")
  | .print => ("PRINT", "Print")
  | .input => ("INPUT", "Input")

end Keyword

namespace Operator

def all : List Operator :=
  [.plus, .minus, .assign, .increment, .decrement, .equal, .notEqual, .greater, .less,
   .greaterEqual, .lessEqual]

def spelling : Operator → String
  | .plus => "+"
  | .minus => "-"
  | .assign => "="
  | .increment => "++"
  | .decrement => "--"
  | .equal => "=="
  | .notEqual => "!="
  | .greater => ">"
  | .less => "<"
  | .greaterEqual => ">="
  | .lessEqual => "<="

def names : Operator → String × String
  | .plus => ("PLUS", "Plus")
  | .minus => ("MINUS", "Minus")
  | .assign => ("ASSIGN", "Assign")
  | .increment => ("INCRE", "Incre")
  | .decrement => ("DECRE", "Decre")
  | .equal => ("EQ", "Eq")
  | .notEqual => ("NOTEQ", "NotEq")
  | .greater => ("GT", "Gt")
  | .less => ("LT", "Lt")
  | .greaterEqual => ("GTEQ", "GtEq")
  | .lessEqual => ("LTEQ", "LtEq")

end Operator

namespace Delimiter

def all : List Delimiter := [.leftParen, .rightParen, .leftBrace, .rightBrace, .comma, .semicolon]

def spelling : Delimiter → String
  | .leftParen => "("
  | .rightParen => ")"
  | .leftBrace => "\x7b"
  | .rightBrace => "\x7d"
  | .comma => ","
  | .semicolon => ";"

/-- The delimiter that is this character. -/
def ofChar? (c : Char) : Option Delimiter := all.find? (·.spelling == c.toString)

def names : Delimiter → String × String
  | .leftParen => ("LPAREN", "LParen")
  | .rightParen => ("RPAREN", "RParen")
  | .leftBrace => ("LBRACE", "LBrace")
  | .rightBrace => ("RBRACE", "RBrace")
  | .comma => ("COMMA", "Comma")
  | .semicolon => ("SEMICOLON", "Semicolon")

end Delimiter

namespace Kind

/-- Every kind, in the order of the taxonomy. -/
def all : List Kind :=
  [.identifier, .number, .string] ++ Keyword.all.map .keyword ++ Operator.all.map .operator ++
    Delimiter.all.map .delimiter ++ [.illegal, .eof]

def names : Kind → String × String
  | .identifier => ("IDENTIFIER", "Identifier")
  | .number => ("NUMBER", "Number")
  | .string => ("STRING", "String")
  | .keyword word => word.names
  | .operator op => op.names
  | .delimiter mark => mark.names
  | .illegal => ("ILLEGAL", "Illegal")
  | .eof => ("EOF", "Eof")

/-- The name that dumps show. -/
def name (k : Kind) : String := k.names.1

/-- The name in mixed case. -/
def title (k : Kind) : String := k.names.2

/-- The kind that a name shown in a dump stands for. -/
def ofName? (name : String) : Option Kind := all.find? (·.name == name)

/-- The reserved spelling, which only keyword kinds have. -/
def reservedSpelling : Kind → Option String
  | .keyword word => some word.spelling
  | _ => none

def family : Kind → Family
  | .identifier | .number | .string => .literal
  | .keyword _ => .keyword
  | .operator _ => .operator
  | .delimiter _ => .delimiter
  | .illegal | .eof => .sentinel

/-- The kind of a word: a keyword when the word is reserved, else an identifier. -/
def ofWord (word : String) : Kind :=
  match Keyword.ofSpelling? word with
  | some reserved => .keyword reserved
  | none => .identifier

theorem mem_all (k : Kind) : k ∈ all := by
  rcases k with _ | _ | _ | w | o | d | _ | _
  case keyword => cases w <;> decide
  case operator => cases o <;> decide
  case delimiter => cases d <;> decide
  all_goals decide

theorem ofName?_name (k : Kind) : ofName? k.name = some k := by
  rcases k with _ | _ | _ | w | o | d | _ | _
  case keyword => cases w <;> decide
  case operator => cases o <;> decide
  case delimiter => cases d <;> decide
  all_goals decide

end Kind

/-- Name of a family. -/
def Kind.Family.name : Kind.Family → String
  | .literal => "Literal"
  | .keyword => "Keyword"
  | .operator => "Operator"
  | .delimiter => "Delimiter"
  | .sentinel => "Sentinel"

end TokenDump
