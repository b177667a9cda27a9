import EnsembleDesk.Grammar.Basic
import EnsembleDesk.Pattern.Reader
/-!
# Grammar tables

A grammar table lists, for each mode, rules and splices: a splice stands for the rules of another
mode. `GrammarTable.compile` expands the splices in place, checks that every mode that a rule enters
has rules, and reads the patterns, which may be given in any notation that `read?` understands.

Both languages are made of words with white space between them, and in both a comment reaches from
two hyphens to the end of the line; `LineGrammar` has the patterns and entries that they share.
-/

namespace EnsembleDesk

/-- A rule as it is written in a grammar table. -/
structure WrittenRule (π : Type) where
  /-- The pattern. -/
  pattern : π
  /-- What a match yields. -/
  emit : Emit
  /-- An action written beside the cases of a rule; it is never taken, as each case has its own. -/
  idle : Action

/-- The actions that are written with a rule. -/
def WrittenRule.actions {π : Type} (rule : WrittenRule π) : List Action :=
  match rule.emit with
  | .cases arms => rule.idle :: arms.map (·.action)
  | emit => emit.actions

/-- An entry of a mode's list: a rule, or the rules of another mode at this place. -/
inductive Entry (π : Type) where
  /-- A rule, its pattern as it is written in the table. -/
  | rule (pattern : π) (emit : Emit) (idle : Action := {})
  /-- The rules of another mode. -/
  | splice (mode : Mode)

/-- A grammar as it is written down. -/
structure GrammarTable (π : Type) where
  /-- The name of the grammar. -/
  name : String
  /-- The kind of a word that no rule matches. -/
  defaultKind : TokenKind
  /-- The keyword table. -/
  keywords : List Keyword
  /-- The entries of each mode; if a mode is listed twice, the last list counts. -/
  modes : List (Mode × List (Entry π))

/-- Why a grammar table cannot be compiled. -/
inductive GrammarError where
  /-- A pattern cannot be read. -/
  | badPattern (pattern : String)
  /-- A splice or a transition names a mode without a list of its own. -/
  | unknownMode (grammar : String) (mode : Mode)
  /-- A mode contains itself. -/
  | spliceCycle (mode : Mode)
  /-- There is no list for the mode every line begins in. -/
  | missingRoot (grammar : String)
deriving DecidableEq

/-- The text of the error; of a bad pattern, the pattern. -/
def GrammarError.message : GrammarError → String
  | badPattern pattern => pattern
  | unknownMode grammar mode => "grammar '" ++ grammar ++ "' has no rules for state " ++ mode.name
  | spliceCycle mode => "include cycle detected involving state " ++ mode.name
  | missingRoot grammar => "grammar '" ++ grammar ++ "' does not define a root state"

namespace GrammarTable

variable {π : Type}

/-- The entries of a mode. -/
def entriesOf? (table : GrammarTable π) (mode : Mode) : Option (List (Entry π)) :=
  table.modes.reverse.lookup mode

/-- Whether a mode has a list of entries. -/
def defines (table : GrammarTable π) (mode : Mode) : Bool :=
  (table.entriesOf? mode).isSome

/-- The rules that entries stand for; those of a mode that is spliced are what `find` finds. -/
def entryRules (find : Mode → Except GrammarError (List (WrittenRule π))) :
    List (Entry π) → Except GrammarError (List (WrittenRule π))
  | [] => .ok []
  | .rule pattern emit idle :: entries =>
    (entryRules find entries).map (⟨pattern, emit, idle⟩ :: ·)
  | .splice mode :: entries => do
    let rules ← find mode
    (entryRules find entries).map (rules ++ ·)

/-- The rules of a mode with all splices expanded in place. `surrounding` holds the modes around the
mode; as none of them may be entered again, `depth` need not exceed the number of modes. -/
def expand (table : GrammarTable π) :
    (depth : Nat) → (surrounding : List Mode) → Mode → Except GrammarError (List (WrittenRule π))
  | 0, _, mode => .error (.spliceCycle mode)
  | depth + 1, surrounding, mode =>
    match table.entriesOf? mode with
    | none => .error (.unknownMode table.name mode)
    | some entries =>
      if mode ∈ surrounding then .error (.spliceCycle mode)
      else entryRules (expand table depth (mode :: surrounding)) entries

/-- The rules of a mode with all splices expanded. -/
def flatten (table : GrammarTable π) (mode : Mode) : Except GrammarError (List (WrittenRule π)) :=
  table.expand (Mode.all.length + 1) [] mode

/-- The first mode entered by a rule that has no list of entries. -/
def missingTarget? (table : GrammarTable π) (rule : WrittenRule π) : Option Mode :=
  (rule.actions.flatMap Action.targets).find? fun mode => !table.defines mode

/-- Compiles a rule: the modes that it enters have to be there, and its pattern to be readable. -/
def compileRule (read? : π → Except GrammarError Pattern) (table : GrammarTable π)
    (rule : WrittenRule π) : Except GrammarError Rule :=
  match table.missingTarget? rule with
  | some target => .error (.unknownMode table.name target)
  | none => (read? rule.pattern).map fun pattern => ⟨pattern, rule.emit⟩

/-- The compiled rules of a mode. -/
def compileMode (read? : π → Except GrammarError Pattern) (table : GrammarTable π) (mode : Mode) :
    Except GrammarError (List Rule) := do
  let rules ← table.flatten mode
  rules.mapM (table.compileRule read?)

/-- Compiles a table, its modes in the given order, its patterns read with `read?`. -/
def compileIn (read? : π → Except GrammarError Pattern) (table : GrammarTable π)
    (order : List Mode) : Except GrammarError Grammar := do
  if !table.defines .root then .error (.missingRoot table.name)
  let rules ← order.mapM fun mode => (table.compileMode read? mode).map (mode, ·)
  .ok ⟨table.name, table.defaultKind, table.keywords, rules⟩

/-- The modes that have a list of entries. -/
def definedModes (table : GrammarTable π) : List Mode := Mode.all.filter table.defines

/-- Compiles a table, its patterns read with `read?`. -/
def compile (read? : π → Except GrammarError Pattern) (table : GrammarTable π) :
    Except GrammarError Grammar :=
  table.compileIn read? table.definedModes

end GrammarTable

/-- Compiles a table whose patterns are texts. -/
def GrammarTable.compileText (table : GrammarTable String) : Except GrammarError Grammar :=
  table.compile fun text =>
    match Pattern.readAnchored? text with
    | some pattern => .ok pattern
    | none => .error (.badPattern text)

/-! ### Words and white space -/

namespace LineGrammar

/-- The last word of a line ends the mode. -/
def endAtLineEnd : Action := { atLineEnd := some .pop }

/-- A word: a run of characters that are not blank. -/
def word : Pattern := .plus true (.set .nonBlank)

/-- A run of spaces and tabs. -/
def spaces : Pattern := .plus true (.set (.ofChars [' ', '\t']))

/-- A comment: two hyphens and the rest of the line. -/
def comment : Pattern := .sequence [.char '-', .char '-', .star true (.set .inLine)]

/-- A word classified by cases. -/
def wordBy (arms : List Case) : Entry Pattern := .rule word (.cases arms)

/-- The case that always applies. -/
def anyWord (kind : TokenKind) (action : Action) : Case := ⟨.any, kind, action⟩

/-- White space and comments. -/
def whitespaceEntries : List (Entry Pattern) :=
  [.rule spaces (.kind .white {}), .rule comment (.kind .comment {})]

end LineGrammar

end EnsembleDesk
