import EnsembleDesk.Assist.Hover
import EnsembleDesk.Json.Basic
import EnsembleDesk.Line.Diagnostic
/-!
# Messages to the host

Keywords, tokens, diagnostics, completions and hovers in the JSON form in which the host takes them.
-/

namespace EnsembleDesk

/-- An array of JSON values. -/
def Json.ofList {α : Type} (f : α → Json) (items : List α) : Json := .array (items.map f)

/-- A choice as JSON. -/
def Choice.toJson (choice : Choice) : Json :=
  .object [("label", .string choice.label), ("documentation", .string choice.documentation)]

/-- A parameter as JSON. -/
def Parameter.toJson (parameter : Parameter) : Json :=
  .object [("label", .string parameter.label),
    ("documentation", .string parameter.documentation),
    ("delimiter", if parameter.named then .string ":" else .null),
    ("options", .ofList Choice.toJson parameter.choices),
    ("numerical", .bool parameter.numerical), ("required", .bool parameter.required),
    ("takesFilepath", .bool parameter.takesFilepath)]

/-- The parameters of a keyword as JSON. -/
def Signature.toJson : Signature → Json
  | .count n => .object [("count", .ofNat n)]
  | .parameters list => .object [("parameters", .ofList Parameter.toJson list)]

/-- A keyword as JSON. -/
def Keyword.toJson (keyword : Keyword) : Json :=
  .object [("label", .string keyword.label), ("usage", .string keyword.usage),
    ("documentation", .string keyword.documentation),
    ("signature", keyword.signature.toJson),
    ("tags", .array (if keyword.deprecated then [.string "deprecated"] else [])),
    ("takesFilepath", .bool keyword.takesFilepath), ("numerical", .bool keyword.numerical),
    ("required", .bool keyword.required)]

/-- A token as JSON; the keyword is absent if there is none. -/
def Token.toJson (token : Token) : Json :=
  .object ([("kind", .string token.kind.name),
    ("value", .object [("text", .string token.text), ("startColumn", .ofNat token.start),
      ("endColumn", .ofNat token.stop)]),
    ("position", .object [("lineNumber", .ofNat token.line), ("column", .ofNat token.start)])] ++
    (token.keyword.map fun keyword => ("keyword", keyword.toJson)).toList)

/-- A diagnostic as JSON. -/
def Diagnostic.toJson (diagnostic : Diagnostic) : Json :=
  .object [("severity", .string diagnostic.problem.severity.name),
    ("message", .string diagnostic.problem.message), ("lineNumber", .ofNat diagnostic.line),
    ("startColumn", .ofNat diagnostic.start), ("endColumn", .ofNat diagnostic.stop)]

/-- A part of a line as JSON. -/
def LineRange.toJson (range : LineRange) : Json :=
  .object [("startLineNumber", .ofNat range.line), ("startColumn", .ofNat range.start),
    ("endLineNumber", .ofNat range.line), ("endColumn", .ofNat range.stop)]

/-- A completion as JSON. -/
def Completion.toJson (completion : Completion) : Json :=
  .object [("label", .string completion.keyword.label),
    ("detail", .string completion.keyword.usageLine),
    ("documentation", .string completion.keyword.documentation), ("kind", .string "keyword"),
    ("insertText", .string completion.inserted),
    ("insertTextRules", .string (if completion.snippet then "snippet" else "plain")),
    ("range", completion.range.toJson)]

/-- A hover as JSON. -/
def Hover.toJson (hover : Hover) : Json :=
  .object [("range", hover.range.toJson), ("contents", .ofList Json.string hover.contents)]

end EnsembleDesk
