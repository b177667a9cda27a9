import EnsembleDesk.Text.Lines
import EnsembleDesk.Number.Layout
/-!
# Keywords and their parameters

A keyword leads a line and declares what may follow it: a number of numeric arguments, or a list of
parameters. A parameter is positional, or named and then written `NAME:value`; its value may be
restricted to a closed set of choices.

`Keyword.find?` looks a label up in a keyword table. Labels are exact, case included.
-/

namespace EnsembleDesk

/-- A documented member of a closed set of values. -/
structure Choice where
  /-- The word itself. -/
  label : String
  /-- What the word means. -/
  documentation : String
deriving DecidableEq, Inhabited

/-- A parameter that a keyword accepts. -/
structure Parameter where
  /-- The name of the parameter, unique among the parameters of its keyword. -/
  label : String
  /-- What the parameter means. -/
  documentation : String
  /-- Whether the parameter is written `NAME:value`; otherwise its position tells it apart. -/
  named : Bool := false
  /-- Whether every line of the keyword must give the parameter. -/
  required : Bool := false
  /-- Whether the value must be a number. -/
  numerical : Bool := false
  /-- Whether the value is a path. -/
  takesFilepath : Bool := false
  /-- The values that are accepted; none listed means that every value is. -/
  choices : List Choice := []
deriving DecidableEq, Inhabited

/-- How a keyword declares its arguments. -/
inductive Signature where
  /-- A fixed number of numeric arguments. -/
  | count (n : Nat)
  /-- A list of parameters. -/
  | parameters (parameters : List Parameter)
deriving DecidableEq, Inhabited

/-- A word that leads a line and gives it its meaning. -/
structure Keyword where
  /-- The word itself, unique in its table. -/
  label : String
  /-- An example of the arguments. -/
  usage : String
  /-- What the keyword means, in Markdown. -/
  documentation : String
  /-- The arguments. -/
  signature : Signature
  /-- Whether a document must hold the keyword. -/
  required : Bool := false
  /-- Whether the arguments are numbers. -/
  numerical : Bool := false
  /-- Whether the first argument is a path. -/
  takesFilepath : Bool := false
  /-- Whether the keyword is accepted only for the sake of old documents. -/
  deprecated : Bool := false
deriving DecidableEq, Inhabited

namespace Parameter

/-- Whether the position of a parameter tells it apart. -/
def positional (parameter : Parameter) : Bool := !parameter.named

/-- Whether a value is among the choices; every value is if there are none. -/
def accepts (parameter : Parameter) (value : String) : Bool :=
  parameter.choices.isEmpty || parameter.choices.any (·.label == value)

end Parameter

namespace Keyword

/-- Finds the keyword of a label in a keyword table. -/
def find? (table : List Keyword) (label : String) : Option Keyword :=
  table.find? (·.label == label)

/-- The declared parameters; a keyword that only counts its arguments has none. -/
def parameters (keyword : Keyword) : List Parameter :=
  match keyword.signature with
  | .count _ => []
  | .parameters parameters => parameters

/-- The parameters told apart by position. -/
def positionals (keyword : Keyword) : List Parameter :=
  keyword.parameters.filter Parameter.positional

/-- Finds a parameter by its label. -/
def parameter? (keyword : Keyword) (label : String) : Option Parameter :=
  keyword.parameters.find? (·.label == label)

/-- The number of arguments that are told apart by position. -/
def arity (keyword : Keyword) : Nat :=
  match keyword.signature with
  | .count n => n
  | .parameters _ => keyword.positionals.length

/-- The names of the arguments that a line of the keyword cannot do without. -/
def placeholders (keyword : Keyword) : List String :=
  match keyword.signature with
  | .count n => ((wordsOf keyword.usage.toList).take n).map String.ofList
  | .parameters _ => (keyword.positionals.filter (·.required)).map (·.label)

/-- The label with a numbered placeholder `${n:name}` for each argument that a line of the
keyword cannot do without. -/
def snippet (keyword : Keyword) : String :=
  keyword.label ++ String.join (keyword.placeholders.zipIdx.map fun (name, i) =>
    " $\x7b" ++ natText (i + 1) ++ ":" ++ name ++ "\x7d")

end Keyword

end EnsembleDesk
