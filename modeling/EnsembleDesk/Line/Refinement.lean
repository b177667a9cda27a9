import EnsembleDesk.Line.Argument
import EnsembleDesk.Schema.Choices
/-!
# Arguments against their parameters

`refine` compares the arguments of a line with the parameters that its keyword declares, and marks
what does not fit as invalid. Kinds are all that it changes. A deprecated keyword becomes a warning;
the value of a named parameter takes the kind its parameter gives it; an opening parenthesis that is
never closed is invalid.
-/

namespace EnsembleDesk

open Schema

/-- Gives the token at a place another kind. -/
def setKind (tokens : List Token) (place : Nat) (kind : TokenKind) : List Token :=
  tokens.modify place fun token => { token with kind := kind }

/-- The text of the token at a place. -/
def textAt (tokens : List Token) (place : Nat) : String :=
  (tokens[place]?.map (·.text)).getD ""

namespace Parameter

/-- Whether a text may stand for the parameter: it is among the choices, and a number if it has to
be one. -/
def fits (parameter : Parameter) (value : String) : Bool :=
  parameter.accepts value && (!parameter.numerical || isNumericLiteral value)

/-- The kind of a value given by name, if the parameter decides it. -/
def valueKind? (parameter : Parameter) (value : String) : Option TokenKind :=
  if !parameter.choices.isEmpty then
    some (if parameter.accepts value then .constant else .invalid)
  else if parameter.numerical then
    some (if isNumericLiteral value then .number else .invalid)
  else none

end Parameter

/-- Marks the token at a place invalid unless it fits a positional parameter. -/
def refinePositional (parameter : Parameter) (place : Nat) (tokens : List Token) : List Token :=
  if parameter.fits (textAt tokens place) then tokens else setKind tokens place .invalid

/-- Marks the name of an unknown parameter invalid, and gives the value of a known one its kind. -/
def refineNamed (keyword : Keyword) (name : Nat) (value : Option Nat) (tokens : List Token) :
    List Token :=
  match (keyword.parameter? (textAt tokens name)).filter (·.named), value with
  | none, _ => setKind tokens name .invalid
  | some _, none => tokens
  | some parameter, some value =>
    match parameter.valueKind? (textAt tokens value) with
    | some kind => setKind tokens value kind
    | none => tokens

/-- Compares arguments with parameters; the positional ones meet in order. -/
def refineArguments (keyword : Keyword) :
    List Parameter → List Argument → List Token → List Token
  | _, [], tokens => tokens
  | [], .positional _ :: rest, tokens => refineArguments keyword [] rest tokens
  | parameter :: parameters, .positional place :: rest, tokens =>
    refineArguments keyword parameters rest (refinePositional parameter place tokens)
  | parameters, .named name value :: rest, tokens =>
    refineArguments keyword parameters rest (refineNamed keyword name value tokens)

/-- Compares the tokens of a line with what its keyword declares. A line that no keyword leads is
left as it is. -/
def refine (tokens : List Token) : List Token :=
  let parts := LineParts.ofTokens tokens
  match parts.head, parts.keyword? tokens with
  | some head, some keyword =>
    let tokens := if keyword.deprecated then setKind tokens head .warning else tokens
    let tokens := refineArguments keyword keyword.positionals parts.arguments tokens
    parts.unclosed.foldl (fun tokens place => setKind tokens place .invalid) tokens
  | _, _ => tokens

end EnsembleDesk
