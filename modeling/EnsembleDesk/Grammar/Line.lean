import EnsembleDesk.Grammar.Basic
import EnsembleDesk.Text.Lines
/-!
# Tokens of a line

`Grammar.tokensOf` reads a line from left to right. At each place the first rule of the current
mode that matches some text yields tokens and changes the mode; where no rule matches, a run of
blanks or of other characters becomes one token. Every line is read from the root mode on, so its
tokens depend on nothing but the line.
-/

namespace EnsembleDesk

namespace Grammar

/-- A token at a place of a line. Keywords are looked up in the grammar's keyword table. -/
def token (grammar : Grammar) (line column : Nat) (kind : TokenKind) (text : List Char) : Token :=
  let text := String.ofList text
  let keyword :=
    if kind = .keyword ∨ kind = .warning then Keyword.find? grammar.keywords text else none
  ⟨kind, text, line, column, keyword⟩

/-- What reading does at one place: the tokens, how many characters they come from, and the modes
after them. -/
structure Step where
  /-- The tokens that are found. -/
  tokens : List Token
  /-- The number of characters that are read. -/
  length : Nat
  /-- The modes afterwards. -/
  stack : ModeStack

/-- The tokens of the groups of a match, numbered from `index` on; a group that matched nothing
yields none. -/
def groupTokens (grammar : Grammar) (line column : Nat) (found : Cursor) :
    Nat → List TokenKind → List Token
  | _, [] => []
  | index, kind :: kinds =>
    let tokens := groupTokens grammar line column found (index + 1) kinds
    match found.capture? index with
    | some ⟨_, offset, c :: text⟩ =>
      grammar.token line (column + offset) kind (c :: text) :: tokens
    | _ => tokens

/-- What a match yields: tokens and an action; none if the match does not count. -/
def emitted? (grammar : Grammar) (line column : Nat) (found : Cursor) (text : List Char) :
    Emit → Option (List Token × Action)
  | .kind kind action => some ([grammar.token line column kind text], action)
  | .groups kinds action => some (grammar.groupTokens line column found 1 kinds, action)
  | .cases arms =>
    (arms.find? fun arm => arm.matcher.accepts grammar.keywords (String.ofList text)).map
      fun arm => ([grammar.token line column arm.kind text], arm.action)

/-- Applies a rule at a place; none if it does not match any text. -/
def applyRule? (grammar : Grammar) (line column : Nat) (stack : ModeStack) (rest : List Char)
    (rule : Rule) : Option Step := do
  let found ← rule.pattern.match? rest
  if found.offset = 0 then none
  else do
    let (tokens, action) ← grammar.emitted? line column found (rest.take found.offset) rule.emit
    let lineEnds := allBlank (rest.drop found.offset)
    some ⟨tokens, found.offset, (action.resolve lineEnds).apply stack⟩

/-- Reads a run of blanks, or of characters that are not blank. -/
def fallback (grammar : Grammar) (line column : Nat) (stack : ModeStack) (rest : List Char) :
    Step :=
  let white := (rest.head?.map isBlank).getD false
  let run := rest.takeWhile fun c => isBlank c == white
  let kind := if white then .white else grammar.defaultKind
  ⟨[grammar.token line column kind run], run.length, stack⟩

/-- Reads at one place. -/
def step (grammar : Grammar) (line column : Nat) (stack : ModeStack) (rest : List Char) : Step :=
  ((grammar.rulesOf stack.top).findSome? (grammar.applyRule? line column stack rest)).getD
    (grammar.fallback line column stack rest)

/-- Reads the rest of a line. -/
def tokensFrom (grammar : Grammar) (line : Nat) : Nat → ModeStack → List Char → List Token
  | _, _, [] => []
  | column, stack, c :: rest =>
    let found := grammar.step line column stack (c :: rest)
    let length := max found.length 1
    found.tokens ++ tokensFrom grammar line (column + length) found.stack ((c :: rest).drop length)
termination_by _ _ rest => rest.length
decreasing_by simp only [List.length_drop, List.length_cons]; omega

/-- The tokens of a line with the given number. -/
def tokensOf (grammar : Grammar) (line : Nat) (text : String) : List Token :=
  grammar.tokensFrom line 1 ⟨.root, []⟩ text.toList

end Grammar

end EnsembleDesk
