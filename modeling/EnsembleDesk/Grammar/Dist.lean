import EnsembleDesk.Grammar.Table
import EnsembleDesk.Schema.Choices
import EnsembleDesk.Schema.Dist
/-!
# The grammar of priors

A line of a prior file is a name, a keyword and numbers. Words in unexpected places are identifiers,
never errors; whether a line defines a prior is decided on its tokens.
-/

namespace EnsembleDesk

namespace DistGrammar

open Schema LineGrammar

/-- The entries of each mode. -/
def modes : List (Mode × List (Entry Pattern)) :=
  [(.root, [.splice .whitespace,
      wordBy [⟨.keyword, .keyword, { transition := .push .afterKeyword }⟩,
        anyWord .identifier { transition := .push .hasIdentifier, atLineEnd := some .stay }]]),
    (.whitespace, whitespaceEntries),
    (.hasIdentifier, [.splice .whitespace,
      wordBy [⟨.keyword, .keyword, { transition := .switch .afterKeyword }⟩,
        anyWord .identifier endAtLineEnd]]),
    (.afterKeyword, [.splice .whitespace,
      wordBy [⟨.predicate isNumericLiteral, .number, endAtLineEnd⟩,
        anyWord .identifier endAtLineEnd]])]

/-- The grammar as a table. -/
def table : GrammarTable Pattern := ⟨"dist", .identifier, distKeywords, modes⟩

end DistGrammar

end EnsembleDesk
