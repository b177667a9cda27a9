import EnsembleDesk.Sheet.Basic
/-!
# Workbooks

A workbook is a list of sheets with different names.
-/

namespace EnsembleDesk

/-- A list of sheets. -/
structure Workbook where
  /-- The sheets, in order. -/
  sheets : List Worksheet
deriving DecidableEq, Inhabited

namespace Workbook

/-- A workbook without sheets. -/
def empty : Workbook := ⟨[]⟩

/-- The name of the sheet of a new workbook. -/
def defaultSheetName : String := "Sheet1"

/-- A workbook with one empty sheet. -/
def blank : Workbook := ⟨[.empty defaultSheetName]⟩

/-- The names of the sheets. -/
def names (book : Workbook) : List String := book.sheets.map Worksheet.name

/-- Adds a sheet at the end, or in place of the sheet of the same name. -/
def push (book : Workbook) (sheet : Worksheet) : Workbook :=
  if book.names.contains sheet.name then
    ⟨book.sheets.map fun s => if s.name = sheet.name then sheet else s⟩
  else ⟨book.sheets ++ [sheet]⟩

/-- The sheet of a name. -/
def sheet? (book : Workbook) (name : String) : Option Worksheet :=
  book.sheets.find? fun sheet => sheet.name == name

/-- The sheet of a name, or the error that there is none. -/
def sheet (book : Workbook) (name : String) : Except GridError Worksheet :=
  match book.sheet? name with
  | some sheet => .ok sheet
  | none => .error (.unknownSheet name)

/-- Changes the sheet of a name. -/
def update (book : Workbook) (name : String) (f : Worksheet → Worksheet) : Workbook :=
  ⟨book.sheets.map fun sheet => if sheet.name = name then f sheet else sheet⟩

end Workbook

end EnsembleDesk
