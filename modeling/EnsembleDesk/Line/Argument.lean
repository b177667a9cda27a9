import EnsembleDesk.Token
/-!
# The arguments of a line

The first token of a line that carries meaning leads the line; the others are its arguments.
`LineParts.ofTokens` finds them: a token before an adjoining colon names the argument whose value
adjoins the colon, any other token is an argument by itself, and what stands between parentheses
belongs to the argument before them. Tokens are given by their places in the list.
-/

namespace EnsembleDesk

/-- An argument of a keyword, by the places of its tokens. -/
inductive Argument where
  /-- An argument told apart by its position. -/
  | positional (place : Nat)
  /-- An argument `name:value`; there is no value in `name:`. -/
  | named (name : Nat) (value : Option Nat)
deriving DecidableEq

/-- The parts of a line. -/
structure LineParts where
  /-- The place of the token that leads the line. -/
  head : Option Nat
  /-- The arguments in order. -/
  arguments : List Argument
  /-- The places of the opening parentheses that are never closed, the last one first. -/
  unclosed : List Nat
deriving DecidableEq

namespace Token

/-- Whether a token is the given delimiter. -/
def isDelimiter (text : String) (token : Token) : Bool :=
  token.kind == .delimiter && token.text == text

/-- Whether a token ends where another begins. -/
def adjoins (left right : Token) : Bool := left.stop == right.start

end Token

namespace LineParts

/-- Adds an argument in front. -/
def addArgument (argument : Argument) (parts : List Argument × List Nat) :
    List Argument × List Nat :=
  (argument :: parts.1, parts.2)

/-- Reads arguments; `unclosed` holds the places of the parentheses that are open. -/
def readArguments (unclosed : List Nat) : List (Token × Nat) → List Argument × List Nat
  | [] => ([], unclosed)
  | (token, place) :: rest =>
    if token.isDelimiter "(" then readArguments (place :: unclosed) rest
    else if token.isDelimiter ")" then readArguments unclosed.tail rest
    else if !unclosed.isEmpty then readArguments unclosed rest
    else match rest with
      | [] => ([.positional place], unclosed)
      | (colon, colonPlace) :: rest =>
        if colon.isDelimiter ":" && token.adjoins colon then
          match rest with
          | [] => ([.named place none], unclosed)
          | (value, valuePlace) :: rest =>
            if colon.adjoins value then
              addArgument (.named place (some valuePlace)) (readArguments unclosed rest)
            else
              addArgument (.named place none)
                (readArguments unclosed ((value, valuePlace) :: rest))
        else
          addArgument (.positional place) (readArguments unclosed ((colon, colonPlace) :: rest))

@[simp]
theorem readArguments_nil (unclosed : List Nat) : readArguments unclosed [] = ([], unclosed) := by
  rw [readArguments.eq_def]

/-- The parts of a line. -/
def ofTokens (tokens : List Token) : LineParts :=
  match tokens.zipIdx.filter (·.1.significant) with
  | [] => ⟨none, [], []⟩
  | (_, head) :: rest =>
    let (arguments, unclosed) := readArguments [] rest
    ⟨some head, arguments, unclosed⟩

/-- The keyword that leads a line, if it is one. -/
def keyword? (parts : LineParts) (tokens : List Token) : Option Keyword := do
  let head ← parts.head
  let token ← tokens[head]?
  token.keyword

end LineParts

end EnsembleDesk
