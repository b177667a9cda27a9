import EnsembleDesk.Book.Basic
import EnsembleDesk.Text.Delimited
import EnsembleDesk.Text.Bytes
/-!
# Workbooks as delimited text

A delimited text holds one sheet: a record is a row and a field is a cell, read as if it were typed
and written as it is shown. The rows and columns up to the last used ones are written.
-/

namespace EnsembleDesk

namespace DelimitedFile

/-- Writes the cells of a row of fields. -/
def putFields (sheet : Worksheet) (row : Index) (fields : List String) : Worksheet :=
  fields.zipIdx.foldl (fun sheet (field, column) =>
    match CellValue.ofInput field.toList with
    | some value => sheet.set ⟨row, .capped column⟩ value
    | none => sheet) sheet

/-- The sheet of some rows of fields. -/
def sheetOf (rows : List (List String)) : Worksheet :=
  rows.zipIdx.foldl (fun sheet (fields, row) => putFields sheet (.capped row) fields)
    (.empty Workbook.defaultSheetName)

/-- Reads a workbook. -/
def read (delimiter : UInt8) (bytes : List UInt8) : Except GridError Workbook :=
  match (Delimited.read delimiter bytes).mapM (·.mapM ofUtf8?) with
  | some rows => .ok (Workbook.empty.push (sheetOf rows))
  | none => .error .malformedText

/-- The fields of a row, up to a last column. -/
def rowFields (sheet : Worksheet) (last : Index) (row : Nat) : List (List UInt8) :=
  (List.range (last.val + 1)).map fun column =>
    utf8 (CellValue.displayCell (sheet.value ⟨.capped row, .capped column⟩))

/-- The rows of a sheet up to the last used one. -/
def rowsOf (sheet : Worksheet) : List (List (List UInt8)) :=
  match sheet.used with
  | none => []
  | some used => (List.range (used.rows.stop.val + 1)).map (rowFields sheet used.columns.stop)

/-- Writes the first sheet of a workbook. -/
def write (delimiter : UInt8) (book : Workbook) : List UInt8 :=
  match book.sheets.head? with
  | none => []
  | some sheet => Delimited.write delimiter (rowsOf sheet)

end DelimitedFile

end EnsembleDesk
