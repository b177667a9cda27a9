import EnsembleDesk.Text.Lines
/-!
# Tabbed text

Rows of fields as they are put on the clipboard: tabs between the fields, line feeds between the
rows, and no quoting. Reading takes carriage returns before line feeds away, and one line break at
the end of the text.
-/

namespace EnsembleDesk

namespace Tabbed

/-- The text of some rows. -/
def write (rows : List (List (List Char))) : List Char :=
  List.intercalate ['\n'] (rows.map (List.intercalate ['\t']))

/-- Takes away one line break at the end of a text. -/
def dropLineBreak (text : List Char) : List Char :=
  if text.getLast? = some '\n' then dropReturn text.dropLast else text

/-- The rows of a text; an empty text has none. -/
def read (text : List Char) : List (List (List Char)) :=
  let text := dropLineBreak text
  if text.isEmpty then []
  else (splitAtChar '\n' text).map fun line => splitAtChar '\t' (dropReturn line)

/-- The number of fields of the longest row. -/
def width (rows : List (List (List Char))) : Nat :=
  rows.foldl (fun width row => max width row.length) 0

end Tabbed

end EnsembleDesk
