import EnsembleDesk.Pattern.Normal
/-!
# Patterns as they are written

`WrittenPattern` is the syntax tree of the text of a pattern, `WrittenSet` that of what stands
between brackets in it. `nesting` counts how many of their parts stand in one another;
`WrittenPattern.pattern` gives a pattern its meaning, in normal form.
-/

namespace EnsembleDesk

/-! ### Bracketed sets -/

/-- An operator between two parts of a bracketed set. -/
inductive SetOperator where
  /-- The characters of both sides, written `&&`. -/
  | intersection
  /-- The characters of the left side that the right side leaves, written `--`. -/
  | difference
  /-- The characters of one side alone, written `~~`. -/
  | symmetricDifference
deriving DecidableEq, Inhabited

/-- Applies an operator. -/
def SetOperator.apply : SetOperator → CodePoints → CodePoints → CodePoints
  | intersection => CodePoints.intersection
  | difference => CodePoints.difference
  | symmetricDifference => CodePoints.symmetricDifference

/-- What stands between brackets. -/
inductive WrittenSet where
  /-- A character, a range or a named class. -/
  | item (points : CodePoints)
  /-- Items written one after the other. -/
  | union (items : List WrittenSet)
  /-- Two sides of an operator. -/
  | combined (operator : SetOperator) (left right : WrittenSet)
  /-- Brackets; after `^` the set holds what the inside leaves out. -/
  | bracketed (negated : Bool) (inside : WrittenSet)
deriving Inhabited

namespace WrittenSet

mutual

/-- The code points in a set. -/
def codePoints : WrittenSet → CodePoints
  | item points => points
  | union items => unionOf items
  | combined operator left right => operator.apply left.codePoints right.codePoints
  | bracketed negated inside => if negated then inside.codePoints.complement else inside.codePoints

/-- The code points in one of several sets. -/
def unionOf : List WrittenSet → CodePoints
  | [] => .empty
  | set :: rest => set.codePoints.union (unionOf rest)

end

mutual

/-- How many parts of a set stand in one another. Items alone do not count, nor does a single item
between brackets. -/
def nesting : WrittenSet → Nat
  | item _ => 0
  | union items => deepest items + if 1 < items.length then 1 else 0
  | combined _ left right => Nat.max left.nesting right.nesting + 1
  | bracketed _ inside => inside.nesting + 1

/-- The deepest nesting of several sets. -/
def deepest : List WrittenSet → Nat
  | [] => 0
  | set :: rest => Nat.max set.nesting (deepest rest)

end

end WrittenSet

/-! ### Patterns -/

/-- The text of a pattern. -/
inductive WrittenPattern where
  /-- A character. -/
  | char (c : Char)
  /-- A dot, for all characters but the line feed. -/
  | dot
  /-- A class, or the characters outside of it. -/
  | named (negated : Bool) (name : CharClass)
  /-- A bracketed set. -/
  | bracketed (negated : Bool) (inside : WrittenSet)
  /-- The beginning of the text. -/
  | start
  /-- The end of the text. -/
  | stop
  /-- Parts written one after the other. -/
  | sequence (parts : List WrittenPattern)
  /-- Alternatives. -/
  | choice (alternatives : List WrittenPattern)
  /-- A part that is repeated. -/
  | repetition (times : Times) (greedy : Bool) (body : WrittenPattern)
  /-- A part in parentheses, with the number under which its text is remembered, if it is. -/
  | group (index : Option Nat) (body : WrittenPattern)
deriving Inhabited

namespace WrittenPattern

mutual

/-- How many parts of a pattern stand in one another. Characters, classes and ends of the text do
not count, nor does a sequence of fewer than two parts. -/
def nesting : WrittenPattern → Nat
  | char _ | dot | named _ _ | start | stop => 0
  | bracketed _ inside => inside.nesting + 1
  | sequence parts => deepest parts + if 1 < parts.length then 1 else 0
  | choice alternatives => deepest alternatives + 1
  | repetition _ _ body => body.nesting + 1
  | group _ body => body.nesting + 1

/-- The deepest nesting of several patterns. -/
def deepest : List WrittenPattern → Nat
  | [] => 0
  | pattern :: rest => Nat.max pattern.nesting (deepest rest)

end

mutual

/-- The meaning of a pattern. -/
def pattern : WrittenPattern → Pattern
  | char c => .char c
  | dot => .set (.ofCodePoints (CodePoints.range 0xA 0xA).complement)
  | named negated name => .set (.ofCodePoints (CharItem.named negated name).codePoints)
  | bracketed negated inside =>
    .set (.ofCodePoints (WrittenSet.bracketed negated inside).codePoints)
  | start => .start
  | stop => .stop
  | sequence parts => .joined (patterns parts)
  | choice alternatives => .alternatives (patterns alternatives)
  | repetition times greedy body => .repeated times greedy body.pattern
  | group none body => body.pattern
  | group (some index) body => .group index body.pattern

/-- The meanings of several patterns. -/
def patterns : List WrittenPattern → List Pattern
  | [] => []
  | written :: rest => written.pattern :: patterns rest

end

end WrittenPattern

end EnsembleDesk
