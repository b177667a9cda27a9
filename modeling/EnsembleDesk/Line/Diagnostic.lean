import EnsembleDesk.Language
/-!
# Diagnostics

The problems of a configuration, line by line: tokens that are invalid, keywords that are
deprecated, and arguments that a keyword requires and does not get; at last the required keywords
that lead no line at all.
-/

namespace EnsembleDesk

/-- How serious a problem is. -/
inductive Severity where
  | error
  | warning
deriving DecidableEq

/-- The name of a severity. -/
def Severity.name : Severity → String
  | error => "error"
  | warning => "warning"

/-- What is wrong. -/
inductive Problem where
  /-- The word that leads a line is no keyword. -/
  | unknownKeyword (text : String)
  /-- A token does not fit where it stands. -/
  | unexpected (text : String)
  /-- A keyword is deprecated. -/
  | deprecated (text : String)
  /-- A keyword has too few positional arguments. -/
  | tooFewArguments (label : String) (required found : Nat)
  /-- A required named parameter is not given. -/
  | missingParameter (label : String)
  /-- A required keyword leads no line. -/
  | missingKeyword (label : String)
deriving DecidableEq

namespace Problem

/-- How serious a problem is: all but a deprecated keyword are errors. -/
def severity : Problem → Severity
  | deprecated _ => .warning
  | _ => .error

/-- The message shown to the user. -/
def message : Problem → String
  | unknownKeyword text => "unknown keyword `" ++ text ++ "`"
  | unexpected text => "unexpected `" ++ text ++ "`"
  | deprecated text => "`" ++ text ++ "` is deprecated"
  | tooFewArguments label required found =>
    "`" ++ label ++ "` expects at least " ++ natText required ++ " argument" ++
      (if required = 1 then "" else "s") ++ ", found " ++ natText found
  | missingParameter label => "missing required parameter `" ++ label ++ ":`"
  | missingKeyword label => "missing required keyword `" ++ label ++ "`"

end Problem

/-- A problem with its place in the document. -/
structure Diagnostic where
  /-- The number of the line. -/
  line : Nat
  /-- The column where the problem begins. -/
  start : Nat
  /-- The column after its end. -/
  stop : Nat
  /-- What is wrong. -/
  problem : Problem
deriving DecidableEq

namespace Diagnostic

/-- A problem at a token. -/
def atToken (token : Token) (problem : Problem) : Diagnostic :=
  ⟨token.line, token.start, token.stop, problem⟩

/-- The problem of a token by itself, if it has one; `head` is the place of the leading token. -/
def ofToken? (head : Option Nat) (token : Token) (place : Nat) : Option Diagnostic :=
  match token.kind with
  | .invalid =>
    some (atToken token
      (if head = some place then .unknownKeyword token.text else .unexpected token.text))
  | .warning => some (atToken token (.deprecated token.text))
  | _ => none

/-- The number of positional arguments of a line. -/
def positionalCount (arguments : List Argument) : Nat :=
  arguments.countP fun
    | .positional _ => true
    | .named _ _ => false

/-- The names given to the named arguments of a line. -/
def givenNames (tokens : List Token) (arguments : List Argument) : List String :=
  arguments.filterMap fun
    | .positional _ => none
    | .named name _ => some (textAt tokens name)

/-- What a keyword requires and the arguments of its line do not give. -/
def missingArguments (keyword : Keyword) (tokens : List Token) (arguments : List Argument) :
    List Problem :=
  let required := keyword.positionals.countP (·.required)
  let found := positionalCount arguments
  let given := givenNames tokens arguments
  (if found < required then [.tooFewArguments keyword.label required found] else []) ++
    (keyword.parameters.filter fun parameter =>
        parameter.named && parameter.required && !given.contains parameter.label).map
      fun parameter => .missingParameter parameter.label

/-- The problems of one line. -/
def ofLine (tokens : List Token) : List Diagnostic :=
  let parts := LineParts.ofTokens tokens
  let own := tokens.zipIdx.filterMap fun (token, place) => ofToken? parts.head token place
  match parts.head.bind (tokens[·]?), parts.keyword? tokens with
  | some token, some keyword =>
    own ++ (missingArguments keyword tokens parts.arguments).map (atToken token)
  | _, _ => own

/-- The label of the keyword that leads a line. -/
def leadingLabel? (tokens : List Token) : Option String :=
  ((LineParts.ofTokens tokens).keyword? tokens).map (·.label)

/-- The required keywords that lead none of the lines. They are reported at the very beginning. -/
def missingKeywords (lines : List (List Token)) : List Diagnostic :=
  let seen := lines.filterMap leadingLabel?
  (Language.ert.keywords.filter fun keyword =>
      keyword.required && !seen.contains keyword.label).map
    fun keyword => ⟨1, 1, 1, .missingKeyword keyword.label⟩

/-- The problems of a configuration. -/
def ofText (text : String) : List Diagnostic :=
  let lines := Language.ert.documentTokens text
  lines.flatMap ofLine ++ missingKeywords lines

end Diagnostic

end EnsembleDesk
