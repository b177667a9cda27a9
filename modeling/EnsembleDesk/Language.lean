import EnsembleDesk.Grammar.Dist
import EnsembleDesk.Grammar.Ert
import EnsembleDesk.Grammar.Line
import EnsembleDesk.Line.Refinement
/-!
# The two languages

ERT is the language of configurations, DIST that of priors. Each has its keywords and its grammar;
the tokens of a configuration line are also compared with the parameters of its keyword.
-/

namespace EnsembleDesk

/-- A language of the editor. -/
inductive Language where
  /-- Configurations. -/
  | ert
  /-- Files of priors. -/
  | dist
deriving DecidableEq, Inhabited

namespace Language

/-- The name of a language. -/
def name : Language → String
  | ert => "ert"
  | dist => "dist"

/-- The keyword table of a language. -/
def keywords : Language → List Keyword
  | ert => Schema.ertKeywords
  | dist => Schema.distKeywords

/-- Finds a keyword of a language by its label. -/
def keyword? (language : Language) (label : String) : Option Keyword :=
  Keyword.find? language.keywords label

/-- The grammar table of a language. -/
def table : Language → GrammarTable Pattern
  | ert => ErtGrammar.table
  | dist => DistGrammar.table

/-- The compiled grammar of configurations. -/
def ertGrammar : Grammar := (ErtGrammar.table.compile .ok).toOption.getD default

/-- The compiled grammar of priors. -/
def distGrammar : Grammar := (DistGrammar.table.compile .ok).toOption.getD default

/-- The grammar of a language. -/
def grammar : Language → Grammar
  | ert => ertGrammar
  | dist => distGrammar

/-- The tokens of a line with the given number. -/
def tokensOf (language : Language) (line : Nat) (text : String) : List Token :=
  let tokens := language.grammar.tokensOf line text
  match language with
  | ert => refine tokens
  | dist => tokens

/-- The tokens of every line of a text. -/
def documentTokens (language : Language) (text : String) : List (List Token) :=
  (linesOf text.toList).zipIdx.map fun (line, i) => language.tokensOf (i + 1) (String.ofList line)

end Language

end EnsembleDesk
