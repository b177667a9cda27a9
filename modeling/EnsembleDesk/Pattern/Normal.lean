import EnsembleDesk.Pattern.Basic
/-!
# Patterns in normal form

`joined`, `alternatives` and `repeated` put patterns in normal form together to a pattern in normal
form. In it, sequences and alternatives are not nested in themselves, alternatives that are single
characters or sets are one set, what all alternatives begin with comes before the choice, and a
pattern that takes no character is not repeated. Every set is `CharSet.ofCodePoints` of its members.

The normal form matters to what is matched. A repetition that stands before the choice prefers its
own way over the order of the alternatives: `a*ab|a*b` first takes all of the `a`s and then looks at
both of `ab` and `b`.
-/

namespace EnsembleDesk

/-- How often a repetition can match its body. -/
inductive Times where
  | atMostOnce
  | anyNumber
  | atLeastOnce
deriving DecidableEq, Inhabited

namespace Pattern

/-! ### The parts of a pattern -/

/-- The patterns that a pattern matches one after the other. -/
def parts : Pattern → List Pattern
  | empty => []
  | seq first second => first.parts ++ second.parts
  | pattern => [pattern]

/-- The patterns of which a pattern matches one. -/
def branches : Pattern → List Pattern
  | alt preferred other => preferred.branches ++ other.branches
  | pattern => [pattern]

/-- Whether a pattern matches one set of characters. -/
def isSet : Pattern → Bool
  | set _ => true
  | _ => false

/-- Whether a pattern matches one given character. -/
def isChar : Pattern → Bool
  | set s => s.only?.isSome
  | _ => false

/-- The code points of the characters that a set matches. -/
def codePoints : Pattern → CodePoints
  | set s => s.codePoints
  | _ => .empty

/-- Whether no match of a pattern has a character, as far as the parts of the pattern tell. -/
def takesNothing : Pattern → Bool
  | empty | start | stop => true
  | set _ | star _ _ | plus _ _ => false
  | seq first second => first.takesNothing && second.takesNothing
  | alt preferred other => preferred.takesNothing && other.takesNothing
  | optional _ body | group _ body => body.takesNothing

/-! ### Putting patterns together -/

/-- Patterns one after the other. -/
def joined (patterns : List Pattern) : Pattern := sequence (patterns.flatMap parts)

/-- A pattern repeated. -/
def repeated (times : Times) (greedy : Bool) (body : Pattern) : Pattern :=
  match times, body.takesNothing with
  | .atMostOnce, _ => optional greedy body
  | .anyNumber, false => star greedy body
  | .anyNumber, true => optional greedy body
  | .atLeastOnce, false => plus greedy body
  | .atLeastOnce, true => body

/-- The steps in which alternatives are compared: the parts of a pattern, but all characters that
follow one another are one step. -/
def steps (pattern : Pattern) : List (List Pattern) :=
  pattern.parts.splitBy fun part next => part.isChar && next.isChar

/-- The steps with which two patterns begin. -/
def commonSteps : List (List Pattern) → List (List Pattern) → List (List Pattern)
  | step :: rest, other :: others => if step = other then step :: commonSteps rest others else []
  | _, _ => []

/-- The steps with which all of some patterns begin. -/
def sharedSteps : List (List (List Pattern)) → List (List Pattern)
  | [] => []
  | first :: rest => rest.foldl commonSteps first

/-- A choice between patterns. Characters become one set, and so do sets of which none is given as
one character. -/
def chosen (patterns : List Pattern) : Pattern :=
  if patterns.all isChar || patterns.all fun pattern => pattern.isSet && !pattern.isChar then
    set (.ofCodePoints
      (patterns.foldr (fun pattern points => pattern.codePoints.union points) .empty))
  else choice patterns

/-- Alternatives. If each of them has several steps and all begin with the same, these are matched
once, and the choice comes after them. -/
def alternatives (patterns : List Pattern) : Pattern :=
  let patterns := patterns.flatMap branches
  let written := patterns.map steps
  let shared := sharedSteps written
  if written.all (1 < ·.length) && !shared.isEmpty then
    let others := written.map fun steps => sequence (steps.drop shared.length).flatten
    joined (shared.flatten ++ [chosen (others.flatMap branches)])
  else chosen patterns

end Pattern

end EnsembleDesk
