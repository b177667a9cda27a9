import EnsembleDesk.Pattern.CharSet
/-!
# Patterns

Regular expressions with capture groups, matched leftmost-first: of two alternatives the first that
leads to a match wins, and a repetition takes as much as it can (`greedy`) or as little.

A match is a walk through a pattern. At a choice, which is a pair of alternatives, the beginning of
a part that may be left out or the end of a round of a repetition, it goes one way or the other, and
it may not come to the same choice again before it has moved on in the text: that is what ends
repetitions of the empty text. Where two walks leave a pattern at one place of the text, what is
left to do is the same for both, so that only the preferred one is followed.

`Pattern.ends` lists, in order of preference, the places at which a walk can leave a pattern, each
offset once; `Pattern.match?` is the first of them at the beginning of a text.
-/

namespace EnsembleDesk

/-! ### Sets of natural numbers -/

/-- A finite set of natural numbers. -/
structure BitSet where
  /-- The number whose bits are the members. -/
  bits : Nat
deriving DecidableEq, Inhabited

namespace BitSet

/-- The set without members. -/
def empty : BitSet := ⟨0⟩

/-- Whether a number is a member. -/
def contains (s : BitSet) (i : Nat) : Bool := s.bits.testBit i

/-- The set with one more member. -/
def insert (s : BitSet) (i : Nat) : BitSet := ⟨s.bits ||| 1 <<< i⟩

/-- The empty set has no members. -/
@[simp]
theorem contains_empty (i : Nat) : empty.contains i = false := by
  simp [empty, contains]

/-- The members of a set with one more member. -/
@[simp]
theorem contains_insert (s : BitSet) (i j : Nat) :
    (s.insert i).contains j = (s.contains j || i == j) := by
  simp only [insert, contains, Nat.testBit_or, Nat.testBit_shiftLeft]
  by_cases h : i = j
  · simp [h]
  · have hbit : i ≤ j → Nat.testBit 1 (j - i) = false := fun hle => by
      obtain ⟨k, hk⟩ : ∃ k, j - i = k + 1 := ⟨j - i - 1, by omega⟩
      simp [hk, Nat.testBit_succ]
    by_cases hle : i ≤ j
    · simp [h, hle, hbit hle]
    · simp [h, hle]

end BitSet

/-! ### Patterns -/

/-- A regular expression. -/
inductive Pattern where
  /-- Matches the empty text. -/
  | empty
  /-- Matches one character of a set. -/
  | set (set : CharSet)
  /-- Matches the empty text at the beginning. -/
  | start
  /-- Matches the empty text at the end. -/
  | stop
  /-- Matches one pattern, then another. -/
  | seq (first second : Pattern)
  /-- Matches one of two patterns. -/
  | alt (preferred other : Pattern)
  /-- Matches a pattern or the empty text. -/
  | optional (greedy : Bool) (body : Pattern)
  /-- Matches a pattern any number of times. -/
  | star (greedy : Bool) (body : Pattern)
  /-- Matches a pattern one or more times. -/
  | plus (greedy : Bool) (body : Pattern)
  /-- Matches a pattern and remembers what it matched. -/
  | group (index : Nat) (body : Pattern)
deriving DecidableEq, Inhabited

/-- The text that a group matched. -/
structure Capture where
  /-- The number of the group. -/
  index : Nat
  /-- The number of characters before it. -/
  offset : Nat
  /-- The matched text. -/
  text : List Char

/-- Where a part of a pattern stands: the ways taken down to it from the whole, the last one first;
true leads to the second of two parts. -/
abbrev Place := List Bool

/-- A walk through a pattern and a text, as far as it got. -/
structure Cursor where
  /-- The number of characters before it. -/
  offset : Nat
  /-- The characters from it on. -/
  rest : List Char
  /-- The captures, the last one first. -/
  captures : List Capture
  /-- The choices passed since the last character. -/
  passed : List Place

namespace Cursor

/-- The beginning of a text. -/
def first (text : List Char) : Cursor := ⟨0, text, [], []⟩

/-- The text last captured by a group, if the group took part. -/
def capture? (cursor : Cursor) (index : Nat) : Option Capture :=
  cursor.captures.find? (·.index == index)

/-- Moves on behind a character; `rest` is what follows it. -/
def moved (cursor : Cursor) (rest : List Char) : Cursor :=
  ⟨cursor.offset + 1, rest, cursor.captures, []⟩

/-- Comes to a choice; none if that was passed since the last character. -/
def pass? (cursor : Cursor) (place : Place) : Option Cursor :=
  if cursor.passed.contains place then none
  else some { cursor with passed := place :: cursor.passed }

/-- Remembers what a group matched from an earlier place on. -/
def captured (cursor : Cursor) (index : Nat) (since : Cursor) : Cursor :=
  let text := since.rest.take (cursor.offset - since.offset)
  { cursor with captures := ⟨index, since.offset, text⟩ :: cursor.captures }

/-- Keeps the first cursor at every offset that is not in a set. -/
def distinctFrom (seen : BitSet) : List Cursor → List Cursor
  | [] => []
  | cursor :: rest =>
    if seen.contains cursor.offset then distinctFrom seen rest
    else cursor :: distinctFrom (seen.insert cursor.offset) rest

/-- Keeps the first cursor at every offset. -/
def distinct (cursors : List Cursor) : List Cursor := distinctFrom .empty cursors

end Cursor

namespace Pattern

/-! ### Choices -/

/-- The ends of a part that may be left out; `inside` gives those of the part. -/
def endsOptional (greedy : Bool) (place : Place) (inside : Cursor → List Cursor)
    (cursor : Cursor) : List Cursor :=
  match cursor.pass? place with
  | none => []
  | some cursor =>
    Cursor.distinct (if greedy then inside cursor ++ [cursor] else cursor :: inside cursor)

/-- What is known about a repetition while its rounds are tried. -/
structure Rounds where
  /-- The offsets at which the choice to go on was come to. -/
  tried : BitSet
  /-- The places at which the repetition can end, the last one first. -/
  found : List Cursor

namespace Rounds

/-- Before the first round. -/
def initial : Rounds := ⟨.empty, []⟩

/-- Comes to the choice at an offset. -/
def enter (rounds : Rounds) (offset : Nat) : Rounds :=
  { rounds with tried := rounds.tried.insert offset }

/-- Finds an end. -/
def find (rounds : Rounds) (cursor : Cursor) : Rounds :=
  { rounds with found := cursor :: rounds.found }

/-- The places at which the repetition can end, the preferred ones first. -/
def ends (rounds : Rounds) : List Cursor := rounds.found.reverse

/-- Comes to the choice between another round and the end of a repetition, unless that was come to
at this offset before. `round` gives the ends of a round. A round that leads to an offset of its own
takes a character, so a bound above the length of the text is never reached. -/
def explore (greedy : Bool) (place : Place) (round : Cursor → List Cursor) :
    Nat → Rounds → Cursor → Rounds
  | 0, rounds, _ => rounds
  | bound + 1, rounds, cursor =>
    if rounds.tried.contains cursor.offset then rounds
    else
      match cursor.pass? place with
      | none => rounds
      | some cursor =>
        let rounds := rounds.enter cursor.offset
        if greedy then
          ((round cursor).foldl (explore greedy place round bound) rounds).find cursor
        else (round cursor).foldl (explore greedy place round bound) (rounds.find cursor)

end Rounds

/-- The ends of a repetition in which the choice to go on is also the way in. -/
def endsOfAnyRounds (greedy : Bool) (place : Place) (round : Cursor → List Cursor)
    (cursor : Cursor) : List Cursor :=
  (Rounds.explore greedy place round (cursor.rest.length + 1) .initial cursor).ends

/-- The ends of a repetition in which the choice to go on comes after the first round. -/
def endsOfRounds (greedy : Bool) (place : Place) (round : Cursor → List Cursor)
    (cursor : Cursor) : List Cursor :=
  ((round cursor).foldl (Rounds.explore greedy place round (cursor.rest.length + 1)) .initial).ends

/-! ### Matching -/

/-- The least number of characters in a match, as far as the parts of a pattern tell; none if a part
never matches. -/
def minLength? : Pattern → Option Nat
  | empty | start | stop => some 0
  | set s => if s.isEmpty then none else some 1
  | seq first second => do
    let m ← first.minLength?
    let n ← second.minLength?
    some (m + n)
  | alt preferred other => do
    let m ← preferred.minLength?
    let n ← other.minLength?
    some (Nat.min m n)
  | optional _ body | star _ body => body.minLength?.map fun _ => 0
  | plus _ body | group _ body => body.minLength?

/-- Whether every match of a pattern has a character, as far as its parts tell. -/
def takesSome (pattern : Pattern) : Bool := pattern.minLength?.any (0 < ·)

/-- The places at which a walk that begins at a cursor can leave a pattern, the preferred ones
first. `place` is where the pattern stands in the whole. If the body of a repetition can match the
empty text, the choice to begin is another one than the choice to go on, so that a round that
matches nothing is followed by the end of the repetition. -/
def ends : Pattern → Place → Cursor → List Cursor
  | empty, _, cursor => [cursor]
  | set s, _, cursor =>
    match cursor.rest with
    | [] => []
    | c :: rest => if s.contains c then [cursor.moved rest] else []
  | start, _, cursor => if cursor.offset = 0 then [cursor] else []
  | stop, _, cursor => if cursor.rest.isEmpty then [cursor] else []
  | seq first second, place, cursor =>
    Cursor.distinct
      ((first.ends (false :: place) cursor).flatMap (second.ends (true :: place)))
  | alt preferred other, place, cursor =>
    match cursor.pass? place with
    | none => []
    | some cursor =>
      Cursor.distinct
        (preferred.ends (false :: place) cursor ++ other.ends (true :: place) cursor)
  | optional greedy body, place, cursor =>
    endsOptional greedy place (body.ends (false :: place)) cursor
  | star greedy body, place, cursor =>
    if body.takesSome then endsOfAnyRounds greedy place (body.ends (false :: place)) cursor
    else
      endsOptional greedy (true :: place)
        (endsOfRounds greedy place (body.ends (false :: place))) cursor
  | plus greedy body, place, cursor =>
    endsOfRounds greedy place (body.ends (false :: place)) cursor
  | group index body, place, cursor =>
    (body.ends (false :: place) cursor).map fun inside => inside.captured index cursor

/-- The preferred match at the beginning of a text. -/
def match? (pattern : Pattern) (text : List Char) : Option Cursor :=
  (pattern.ends [] (Cursor.first text)).head?

/-! ### Building patterns -/

/-- Matches a character. -/
def char (c : Char) : Pattern := set (CharSet.single c)

/-- Matches the patterns one after the other. -/
def sequence : List Pattern → Pattern
  | [] => empty
  | pattern :: rest => rest.foldl seq pattern

/-- Matches one of the patterns, the first ones preferred. -/
def choice : List Pattern → Pattern
  | [] => empty
  | [pattern] => pattern
  | pattern :: rest => alt pattern (choice rest)

end Pattern

end EnsembleDesk
