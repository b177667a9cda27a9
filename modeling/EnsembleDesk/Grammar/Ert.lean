import EnsembleDesk.Grammar.Table
import EnsembleDesk.Schema.Ert
/-!
# The grammar of configurations

A line of a configuration is a keyword with its arguments. Keywords whose arguments have a structure
of their own lead to a mode for them; after any other first word the arguments are free words.
-/

namespace EnsembleDesk

namespace ErtGrammar

open Schema LineGrammar

/-- A text between two marks. -/
def quotedBy (mark : Char) : Pattern :=
  .sequence [.char mark, .star true (.set (.allBut [mark])), .char mark]

/-- The name of a named parameter, its colon and its value, which may be empty. -/
def namedParameter : Pattern :=
  .sequence [.group 1 (.plus true (.set ⟨false, [.range 'A' 'Z', .range '_' '_']⟩)),
    .group 2 (.char ':'), .group 3 (.star true (.set .nonBlank))]

/-- The name of a job. -/
def jobName : Pattern :=
  .seq (.set ⟨false, [.range 'A' 'Z', .range 'a' 'z', .range '_' '_']⟩)
    (.star true (.set ⟨false, [.named false .word, .range '-' '-']⟩))

/-- A substitution key in angle brackets. -/
def angleKey : Pattern :=
  .sequence [.char '<', .star true (.set ⟨true, [.range '>' '>', .named false .blank]⟩), .char '>']

/-- A run of characters that neither separate nor end job arguments. -/
def jobWord : Pattern :=
  .plus true (.set ⟨true, [.named false .blank, .range ',' ',', .range '(' '(', .range ')' ')',
    .range '=' '=']⟩)

/-- One word of a kind, after which a mode follows. -/
def oneWord (kind : TokenKind) (next : Mode) : List (Entry Pattern) :=
  [.splice .whitespace, wordBy [anyWord kind { transition := .switch next }]]

/-- The first argument names the declared thing; parameters follow. -/
def nameThen (params : Mode) : List (Entry Pattern) :=
  [.splice .whitespace,
    wordBy [anyWord .identifier { transition := .switch params, atLineEnd := some .pop }]]

/-- Named parameters mixed with positional words. -/
def paramEntries (positional : List Case) : List (Entry Pattern) :=
  [.splice .whitespace,
    .rule namedParameter (.groups [.predefined, .delimiter, .string] endAtLineEnd),
    .splice .strings,
    wordBy positional]

/-- The name of a queue option, after which its value is free. -/
def queueOptionEntries (options : List String) : List (Entry Pattern) :=
  [.splice .whitespace,
    wordBy [⟨.oneOf options, .predefined, { transition := .switch .afterKeyword }⟩,
      anyWord .invalid { transition := .switch .afterKeyword }]]

/-- The keywords whose arguments have a mode of their own. -/
def routedKeywords : List (String × Mode) :=
  [("FIELD", .field), ("GEN_DATA", .genData), ("SURFACE", .surface), ("GEN_KW", .genKw),
    ("HOOK_WORKFLOW", .hookWorkflow), ("INSTALL_JOB", .installJob), ("SETENV", .setEnv),
    ("SUMMARY", .summary), ("QUEUE_SYSTEM", .queueSystem), ("QUEUE_OPTION", .queueOption),
    ("FORWARD_MODEL", .forwardModel), ("SIMULATION_JOB", .simulationJob)]

/-- The first word of a line. -/
def rootCases : List Case :=
  (routedKeywords.map fun (label, mode) =>
      ⟨.exact label, .keyword, { transition := .push mode }⟩) ++
    [⟨.keyword, .keyword, { transition := .push .afterKeyword }⟩,
      anyWord .invalid { transition := .push .afterKeyword }]

/-- The entries of each mode. -/
def modes : List (Mode × List (Entry Pattern)) :=
  [(.whitespace, whitespaceEntries),
    (.numbers, [wordBy [⟨.predicate isNumericLiteral, .number, endAtLineEnd⟩]]),
    (.booleans, [wordBy [⟨.oneOf booleanLiterals, .constant, endAtLineEnd⟩]]),
    (.strings, [.rule (quotedBy '"') (.kind .string endAtLineEnd),
      .rule (quotedBy '\'') (.kind .string endAtLineEnd)]),
    (.root, [.splice .whitespace, wordBy rootCases]),
    (.afterKeyword, [.splice .whitespace, .splice .numbers, .splice .booleans, .splice .strings,
      wordBy [anyWord .string endAtLineEnd]]),
    (.field, nameThen .fieldParams),
    (.fieldParams, paramEntries [⟨.exact "PARAMETER", .type, endAtLineEnd⟩,
      anyWord .string endAtLineEnd]),
    (.genData, nameThen .genDataParams),
    (.genDataParams, paramEntries [anyWord .string endAtLineEnd]),
    (.surface, nameThen .surfaceParams),
    (.surfaceParams, paramEntries [anyWord .string endAtLineEnd]),
    (.genKw, nameThen .genKwParams),
    (.genKwParams, paramEntries [anyWord .string endAtLineEnd]),
    (.hookWorkflow, [.splice .whitespace,
      wordBy [⟨.oneOf hookPoints, .constant, endAtLineEnd⟩, anyWord .identifier endAtLineEnd]]),
    (.queueSystem, [.splice .whitespace,
      wordBy [⟨.oneOf queueSystems, .type, endAtLineEnd⟩, anyWord .invalid endAtLineEnd]]),
    (.queueOption, [.splice .whitespace,
      wordBy [⟨.exact "LSF", .type, { transition := .switch .lsfQueue }⟩,
        ⟨.exact "SLURM", .type, { transition := .switch .slurmQueue }⟩,
        ⟨.exact "TORQUE", .type, { transition := .switch .torqueQueue }⟩,
        ⟨.exact "LOCAL", .type, { transition := .switch .localQueue }⟩,
        anyWord .invalid { transition := .switch .afterKeyword }]]),
    (.lsfQueue, queueOptionEntries lsfQueueOptions),
    (.slurmQueue, queueOptionEntries slurmQueueOptions),
    (.torqueQueue, queueOptionEntries torqueQueueOptions),
    (.localQueue, queueOptionEntries localQueueOptions),
    (.forwardModel, [.splice .whitespace,
      .rule jobName (.kind .function {}),
      .rule (.char '(') (.kind .delimiter { transition := .push .forwardModelParams }),
      wordBy [anyWord .string endAtLineEnd]]),
    (.forwardModelParams, [.splice .whitespace,
      .rule angleKey (.kind .identifier {}),
      .rule (.char '=') (.kind .operator {}),
      .rule (.char ',') (.kind .delimiter {}),
      .rule (.char ')') (.kind .delimiter { transition := .pop }),
      .splice .strings,
      .rule jobWord (.cases [⟨.predicate isNumericLiteral, .number, {}⟩,
        ⟨.oneOf booleanLiterals, .constant, {}⟩, anyWord .string {}])]),
    (.simulationJob, oneWord .function .afterKeyword),
    (.installJob, oneWord .identifier .afterKeyword),
    (.setEnv, oneWord .identifier .afterKeyword),
    (.summary, [.splice .whitespace,
      wordBy [⟨.predicate isSummaryVector, .predefined, endAtLineEnd⟩,
        anyWord .identifier endAtLineEnd]])]

/-- The grammar as a table. -/
def table : GrammarTable Pattern := ⟨"ert", .invalid, ertKeywords, modes⟩

end ErtGrammar

end EnsembleDesk
