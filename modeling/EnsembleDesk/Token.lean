import EnsembleDesk.Schema.Basic
/-!
# Tokens

A line is cut into tokens: pieces of text with a kind. Lines and columns count from one, columns in
characters, and the column after a token's last character is its `stop`.
-/

namespace EnsembleDesk

/-- What a piece of a line is. -/
inductive TokenKind where
  | identifier
  | keyword
  | number
  | string
  | comment
  | white
  | operator
  | delimiter
  | invalid
  | type
  | predefined
  | constant
  | function
  /-- A keyword that is accepted with a warning. -/
  | warning
deriving DecidableEq, Inhabited

namespace TokenKind

/-- All kinds, in the order of their style numbers. -/
def all : List TokenKind :=
  [identifier, keyword, number, string, comment, white, operator, delimiter, invalid, type,
    predefined, constant, function, warning]

/-- The name of a kind, as style sheets know it. -/
def name : TokenKind → String
  | identifier => "identifier"
  | keyword => "keyword"
  | number => "number"
  | string => "string"
  | comment => "comment"
  | white => "white"
  | operator => "operator"
  | delimiter => "delimiter"
  | invalid => "invalid"
  | type => "type"
  | predefined => "predefined"
  | constant => "constant"
  | function => "function"
  | warning => "warn-token"

/-- Finds a kind by its name. -/
def ofName? (name : String) : Option TokenKind :=
  all.find? (·.name == name)

/-- The number below which style numbers belong to others. -/
def styleBase : Nat := 0x05000000

/-- The style number of a kind: the kinds count from one above the base. -/
def styleNumber (kind : TokenKind) : Nat :=
  styleBase + (all.idxOf kind + 1)

/-- Whether a token of the kind carries meaning; white space and comments do not. -/
def significant : TokenKind → Bool
  | white => false
  | comment => false
  | _ => true

end TokenKind

/-- A piece of a line. The numbers are natural numbers; counts in 32 bits, which are not checked,
are the same in texts of less than `2 ^ 32` lines and on lines of less than `2 ^ 32 - 1`
characters. -/
structure Token where
  /-- What the piece is. -/
  kind : TokenKind
  /-- The piece itself. -/
  text : String
  /-- The number of the line, which 32 bits are taken to be enough for. -/
  line : Nat
  /-- The column of the first character, which 32 bits are taken to be enough for. -/
  start : Nat
  /-- The keyword that the piece names, if it is one. -/
  keyword : Option Keyword
deriving DecidableEq, Inhabited

namespace Token

/-- The column after the last character. -/
def stop (token : Token) : Nat := token.start + token.text.length

/-- Whether the token carries meaning. -/
def significant (token : Token) : Bool := token.kind.significant

end Token

end EnsembleDesk
