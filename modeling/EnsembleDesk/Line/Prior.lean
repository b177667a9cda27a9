import EnsembleDesk.Token
/-!
# Lines that define a prior

A line of a prior file defines a prior when it consists of a name, a keyword and as many numbers as
the keyword counts. White space and comments do not matter.
-/

namespace EnsembleDesk

/-- The parts of a line that defines a prior. -/
structure PriorLine where
  /-- The token of the keyword. -/
  keyword : Keyword
  /-- The tokens of the numbers. -/
  numbers : List Token

/-- Reads the tokens of a line as a prior. -/
def PriorLine.ofTokens? (tokens : List Token) : Option PriorLine :=
  match tokens.filter Token.significant with
  | name :: head :: numbers =>
    match head.keyword with
    | some keyword =>
      if name.kind = .identifier ∧ head.kind = .keyword ∧ keyword.arity = numbers.length ∧
          numbers.all (·.kind = .number) then
        some ⟨keyword, numbers⟩
      else none
    | none => none
  | _ => none

/-- Whether the tokens of a line define a prior. -/
def definesPrior (tokens : List Token) : Bool :=
  (PriorLine.ofTokens? tokens).isSome

end EnsembleDesk
