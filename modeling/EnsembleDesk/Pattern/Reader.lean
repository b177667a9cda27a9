import EnsembleDesk.Pattern.Bracket
/-!
# The text of a pattern

`Pattern.read?` reads the usual notation: literal characters, `.`, bracketed sets, the classes
`\s`, `\d`, `\w` and their complements, `^`, `$`, groups, alternatives with `|`, and the repetitions
`*`, `+` and `?`, each of which takes as little as it can when another `?` follows. Counted
repetitions are not part of it. The parts of a pattern can stand in one another up to
`Pattern.nestLimit`.
-/

namespace EnsembleDesk

namespace WrittenPattern

/-- The repetition that a character stands for. -/
def times? (c : Char) : Option Times :=
  if c = '?' then some .atMostOnce
  else if c = '*' then some .anyNumber
  else if c = '+' then some .atLeastOnce
  else none

/-- Reads a `?` that makes a repetition take as little as it can. -/
def readGreed : List Char → Bool × List Char
  | '?' :: rest => (false, rest)
  | text => (true, text)

/-- Reads what a term begins with that is neither repeated nor in parentheses: `c`, and what belongs
to it of the text behind. -/
def readUnit? (c : Char) (rest : List Char) : Option (WrittenPattern × List Char) :=
  if c = '[' then WrittenSet.readBracketed? rest
  else if c = '\\' then
    (WrittenUnit.readEscape? rest).map fun (unit, rest) =>
      (match unit with
        | .char c => char c
        | .named negated name => named negated name, rest)
  else if c = '\x7b' then none
  else if c = '.' then some (dot, rest)
  else if c = '^' then some (start, rest)
  else if c = '$' then some (stop, rest)
  else some (char c, rest)

/-- The pattern of what was read so far: the alternatives that are complete and the terms behind
them, both the last one first. -/
def close (alternatives : List WrittenPattern) (terms : List WrittenPattern) : WrittenPattern :=
  match alternatives with
  | [] => sequence terms.reverse
  | alternatives => choice (sequence terms.reverse :: alternatives).reverse

/-- Reads alternatives up to a closing parenthesis or the end of the text, which is left to read.
`alternatives` and `terms` are what was read of them, `groups` is the number of groups so far. Every
step takes at least one character, so a bound above the text's length is never reached. -/
def readInside? :
    Nat → (alternatives terms : List WrittenPattern) → (groups : Nat) → List Char →
      Option (WrittenPattern × Nat × List Char)
  | 0, _, _, _, _ => none
  | _ + 1, alternatives, terms, groups, [] => some (close alternatives terms, groups, [])
  | _ + 1, alternatives, terms, groups, ')' :: rest =>
    some (close alternatives terms, groups, ')' :: rest)
  | bound + 1, alternatives, terms, groups, '|' :: rest =>
    readInside? bound (sequence terms.reverse :: alternatives) [] groups rest
  | bound + 1, alternatives, terms, groups, '(' :: rest => do
    let (index, opened, rest) ← match rest with
      | '?' :: ':' :: rest => some (none, groups, rest)
      | '?' :: _ => none
      | rest => some (some (groups + 1), groups + 1, rest)
    let (body, groups, rest) ← readInside? bound [] [] opened rest
    match rest with
    | ')' :: rest => readInside? bound alternatives (group index body :: terms) groups rest
    | _ => none
  | bound + 1, alternatives, terms, groups, c :: rest =>
    match times? c, terms with
    | some _, [] => none
    | some times, body :: terms =>
      let (greedy, rest) := readGreed rest
      readInside? bound alternatives (repetition times greedy body :: terms) groups rest
    | none, terms => do
      let (term, rest) ← readUnit? c rest
      readInside? bound alternatives (term :: terms) groups rest

/-- Reads the text of a pattern. -/
def read? (text : String) : Option WrittenPattern :=
  match readInside? (text.length + 1) [] [] 0 text.toList with
  | some (written, _, []) => some written
  | _ => none

end WrittenPattern

namespace Pattern

/-- How many parts of a pattern may stand in one another. -/
def nestLimit : Nat := 250

/-- Reads the text of a pattern. -/
def read? (text : String) : Option Pattern := do
  let written ← WrittenPattern.read? text
  if written.nesting ≤ nestLimit then some written.pattern else none

/-- Reads a pattern that must match at the beginning of a text: the pattern stands in a group of
its own after `^`. -/
def readAnchored? (text : String) : Option Pattern :=
  read? ("^(?:" ++ text ++ ")")

end Pattern

end EnsembleDesk
