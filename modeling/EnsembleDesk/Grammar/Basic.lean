import EnsembleDesk.Pattern.Basic
import EnsembleDesk.Token
/-!
# Grammars of lines

A grammar cuts a line into tokens. It has a list of rules for each mode the reading of a line can
be in; a rule has a pattern, says what tokens a match yields, and how the mode changes. The modes
in which reading was interrupted stand on a stack that is never empty.

A grammar is given as a `GrammarTable`, in which the rules of a mode may be spliced into those of
another.
-/

namespace EnsembleDesk

/-- What the reading of a line expects next. -/
inductive Mode where
  | root
  | whitespace
  | numbers
  | booleans
  | strings
  | afterKeyword
  | hasIdentifier
  | hookWorkflow
  | field
  | fieldParams
  | genData
  | genDataParams
  | surface
  | surfaceParams
  | genKw
  | genKwParams
  | forwardModel
  | forwardModelParams
  | simulationJob
  | installJob
  | setEnv
  | summary
  | queueSystem
  | queueOption
  | lsfQueue
  | slurmQueue
  | torqueQueue
  | localQueue
deriving DecidableEq, Inhabited

namespace Mode

/-- All modes. -/
def all : List Mode :=
  [root, whitespace, numbers, booleans, strings, afterKeyword, hasIdentifier, hookWorkflow, field,
    fieldParams, genData, genDataParams, surface, surfaceParams, genKw, genKwParams, forwardModel,
    forwardModelParams, simulationJob, installJob, setEnv, summary, queueSystem, queueOption,
    lsfQueue, slurmQueue, torqueQueue, localQueue]

/-- The name of a mode, as messages give it. -/
def name : Mode → String
  | root => "Root"
  | whitespace => "Whitespace"
  | numbers => "Numbers"
  | booleans => "Booleans"
  | strings => "Strings"
  | afterKeyword => "AfterKeyword"
  | hasIdentifier => "HasIdentifier"
  | hookWorkflow => "HookWorkflow"
  | field => "Field"
  | fieldParams => "FieldParams"
  | genData => "GenData"
  | genDataParams => "GenDataParams"
  | surface => "Surface"
  | surfaceParams => "SurfaceParams"
  | genKw => "GenKw"
  | genKwParams => "GenKwParams"
  | forwardModel => "ForwardModel"
  | forwardModelParams => "ForwardModelParams"
  | simulationJob => "SimulationJob"
  | installJob => "InstallJob"
  | setEnv => "SetEnv"
  | summary => "Summary"
  | queueSystem => "QueueSystem"
  | queueOption => "QueueOption"
  | lsfQueue => "LsfQueue"
  | slurmQueue => "SlurmQueue"
  | torqueQueue => "TorqueQueue"
  | localQueue => "LocalQueue"

theorem mem_all (mode : Mode) : mode ∈ all := by
  cases mode <;> decide

end Mode

/-! ### The stack of modes -/

/-- The current mode and the modes below it. -/
structure ModeStack where
  /-- The current mode. -/
  top : Mode
  /-- The modes to return to, the nearest first. -/
  below : List Mode
deriving DecidableEq

/-- How the stack of modes changes after a match. -/
inductive Transition where
  /-- Nothing changes. -/
  | stay
  /-- A mode is put on top. -/
  | push (mode : Mode)
  /-- The current mode ends; the last mode of the stack does not. -/
  | pop
  /-- A mode takes the place of the current one. -/
  | switch (mode : Mode)
  /-- All modes but the lowest end. -/
  | popAll
deriving DecidableEq

namespace Transition

/-- The mode that a transition enters. -/
def target? : Transition → Option Mode
  | push mode => some mode
  | switch mode => some mode
  | _ => none

/-- The stack after a transition. -/
def apply : Transition → ModeStack → ModeStack
  | stay, stack => stack
  | push mode, ⟨top, below⟩ => ⟨mode, top :: below⟩
  | pop, ⟨top, []⟩ => ⟨top, []⟩
  | pop, ⟨_, mode :: below⟩ => ⟨mode, below⟩
  | switch mode, ⟨_, below⟩ => ⟨mode, below⟩
  | popAll, ⟨top, below⟩ => ⟨(top :: below).getLast (by simp), []⟩

end Transition

/-- The transition after a match, with one that takes its place when only blanks follow the match
on the line. -/
structure Action where
  /-- The transition in general. -/
  transition : Transition := .stay
  /-- The transition at the end of the line. -/
  atLineEnd : Option Transition := none
deriving DecidableEq, Inhabited

namespace Action

/-- The transition that is taken. -/
def resolve (action : Action) (lineEnds : Bool) : Transition :=
  match lineEnds, action.atLineEnd with
  | true, some transition => transition
  | _, _ => action.transition

/-- The modes that an action may enter. -/
def targets (action : Action) : List Mode :=
  (action.transition.target?).toList ++ (action.atLineEnd.bind Transition.target?).toList

end Action

/-! ### Rules -/

/-- A condition on a matched text. -/
inductive Matcher where
  /-- Holds always. -/
  | any
  /-- Holds of the labels of the grammar's keyword table. -/
  | keyword
  /-- Holds of one text. -/
  | exact (text : String)
  /-- Holds of the members of a closed set. -/
  | oneOf (texts : List String)
  /-- Holds where a predicate does. -/
  | predicate (holds : String → Bool)

namespace Matcher

/-- Whether the condition holds. -/
def accepts (keywords : List Keyword) (text : String) : Matcher → Bool
  | any => true
  | keyword => keywords.any (·.label == text)
  | exact expected => expected == text
  | oneOf texts => texts.contains text
  | predicate holds => holds text

end Matcher

/-- One way to classify a matched text. -/
structure Case where
  /-- When the case applies. -/
  matcher : Matcher
  /-- The kind of the token. -/
  kind : TokenKind
  /-- How the mode changes. -/
  action : Action := {}

/-- What a match yields. -/
inductive Emit where
  /-- One token over the whole match. -/
  | kind (kind : TokenKind) (action : Action)
  /-- One token for each group of the pattern that matched some text. -/
  | groups (kinds : List TokenKind) (action : Action)
  /-- One token over the whole match, classified by the first case that applies; when none does,
  the rule counts as not matching. -/
  | cases (arms : List Case)

namespace Emit

/-- The actions that may be taken. -/
def actions : Emit → List Action
  | kind _ action => [action]
  | groups _ action => [action]
  | cases arms => arms.map (·.action)

end Emit

/-- A rule of a mode. -/
structure Rule where
  /-- What has to match. -/
  pattern : Pattern
  /-- What a match yields. -/
  emit : Emit

/-- A grammar that is ready for reading. -/
structure Grammar where
  /-- The name of the grammar. -/
  name : String
  /-- The kind of a word that no rule matches. -/
  defaultKind : TokenKind
  /-- The keyword table. -/
  keywords : List Keyword
  /-- The rules of each mode. -/
  rules : List (Mode × List Rule)
deriving Inhabited

namespace Grammar

/-- The rules that apply in a mode. -/
def rulesOf (grammar : Grammar) (mode : Mode) : List Rule :=
  (grammar.rules.lookup mode).getD []

end Grammar

end EnsembleDesk
