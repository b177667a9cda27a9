import EnsembleDesk.Language
import EnsembleDesk.Line.Word
/-!
# Completion

The keywords offered where a word is being typed. A configuration offers them only while the word
leads its line; a file of priors offers them everywhere, and always with placeholders for their
numbers. Which of them begin like the word is left to the one who shows the list.
-/

namespace EnsembleDesk

/-- A part of a line, to be replaced or to be marked. -/
structure LineRange where
  /-- The number of the line. -/
  line : Nat
  /-- The column of the first character. -/
  start : Nat
  /-- The column after the last character. -/
  stop : Nat
deriving DecidableEq

/-- What the user can choose about completion. -/
structure CompletionOptions where
  /-- Whether configuration keywords are inserted with placeholders. -/
  snippets : Bool := true
deriving DecidableEq, Inhabited

/-- A keyword that is offered. -/
structure Completion where
  /-- The keyword. -/
  keyword : Keyword
  /-- Whether placeholders are inserted with it. -/
  snippet : Bool
  /-- The part of the line that it replaces. -/
  range : LineRange
deriving DecidableEq

/-- A keyword with an example of its arguments. -/
def Keyword.usageLine (keyword : Keyword) : String :=
  if keyword.usage.isEmpty then keyword.label else keyword.label ++ " " ++ keyword.usage

/-- The text that a completion inserts. -/
def Completion.inserted (completion : Completion) : String :=
  if completion.snippet then completion.keyword.snippet else completion.keyword.label

/-- The keywords offered at a cursor. -/
def completions (language : Language) (line : Nat) (text : List Char) (column : Nat)
    (options : CompletionOptions) : List Completion :=
  let word := wordBefore text column
  let offer (snippet : Bool) : List Completion :=
    language.keywords.map fun keyword => ⟨keyword, snippet, ⟨line, word.start, word.stop⟩⟩
  match language with
  | .ert => if word.start = 1 then offer options.snippets else []
  | .dist => offer true

end EnsembleDesk
