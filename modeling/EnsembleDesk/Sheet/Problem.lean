import EnsembleDesk.Number.Layout
/-!
# What can go wrong with a workbook

The reasons why a value, an address, a file or an operation of the editor is refused.
-/

namespace EnsembleDesk

/-- The kinds of JSON values that no cell can hold. -/
inductive UnsupportedKind where
  | null
  | array
  | object
deriving DecidableEq

/-- The name of a kind of values. -/
def UnsupportedKind.name : UnsupportedKind → String
  | null => "null"
  | array => "array"
  | object => "object"

/-- Why something about a workbook is refused. -/
inductive GridError where
  /-- A value is of a kind that cells cannot hold. -/
  | unsupportedValue (kind : UnsupportedKind)
  /-- A number is infinite or NaN. -/
  | notFinite (number : Binary64)
  /-- The workbook has no sheet of this name. -/
  | unknownSheet (name : String)
  /-- A text is not the address of a cell. -/
  | invalidAddress (text : String)
  /-- A text is not a range of cells. -/
  | invalidRange (text : String)
  /-- A file has no list of sheet names. -/
  | missingSheetNames
  /-- The name of a sheet is not a text. -/
  | sheetNameNotText
  /-- A sheet that is named in a file is not in it. -/
  | missingSheet (name : String)
  /-- The value of a cell is not of the type its tag tells. -/
  | typeMismatch (cell tag : String)
  /-- A file of delimited text is not encoded as it should be. -/
  | malformedText
  /-- A text is not JSON of the expected form. -/
  | malformedJson
  /-- No file is open. -/
  | noFileOpen
  /-- A file could not be written. -/
  | writeFailed (path : String)
deriving DecidableEq

/-- The text between two grave accents. -/
def graveQuoted (text : String) : String := "`" ++ text ++ "`"

/-- The text of an error. -/
def GridError.message : GridError → String
  | unsupportedValue kind => "unsupported cell value type: " ++ kind.name
  | notFinite x => "cell numbers must be finite, got " ++ x.plain
  | unknownSheet name => "no worksheet named " ++ graveQuoted name
  | invalidAddress text => "invalid cell address " ++ graveQuoted text
  | invalidRange text => "invalid cell range " ++ graveQuoted text
  | missingSheetNames => "codec error: missing " ++ graveQuoted "SheetNames"
  | sheetNameNotText => "codec error: sheet names must be strings"
  | missingSheet name => "codec error: missing sheet " ++ graveQuoted name
  | typeMismatch cell tag =>
    "codec error: cell " ++ cell ++ ": value does not match type " ++ graveQuoted tag
  | malformedText => "the text is not valid UTF-8"
  | malformedJson => "the text is not JSON of the expected form"
  | noFileOpen => "no file is open"
  | writeFailed path => "failed to write " ++ graveQuoted path

end EnsembleDesk
