import EnsembleDesk.Book.Basic
import EnsembleDesk.Json.Printer
import EnsembleDesk.Json.Reader
import EnsembleDesk.Json.Record
import EnsembleDesk.Text.Bytes
/-!
# Workbooks as JSON

A document lists the names of the sheets under `SheetNames` and holds each sheet under its name in
`Sheets`. A sheet has a member for each cell, named by the cell's address, with its type `t` and its
value `v`; `!ref` is the used range, and `!cols` and `!rows` list the sizes of columns and rows that
have one of their own.
-/

namespace EnsembleDesk

namespace JsonFile

/-! ### Writing -/

/-- The value of a cell as JSON. -/
def valueJson : CellValue → Json
  | .text s => .string s
  | .number x => .ofBinary64 x
  | .boolean b => .bool b
  | .date d => .string d.text

/-- A cell as JSON. -/
def cellJson (value : CellValue) : Json :=
  .object [("t", .string value.type.tag), ("v", valueJson value)]

/-- The sizes up to the last line that has one of its own. -/
def sizesJson (key : String) (sizes : Sizes Binary64) : Option Json :=
  sizes.own.positions.getLast?.map fun last =>
    .array ((List.range (last.val + 1)).map fun i =>
      match sizes.own.get? (.capped i) with
      | some size => .object [(key, .ofBinary64 size)]
      | none => .null)

/-- A sheet as JSON. -/
def sheetJson (sheet : Worksheet) : Json :=
  .object (
    (sheet.used.map fun range => ("!ref", Json.string range.text)).toList ++
    ((sizesJson "wpx" sheet.columns).map fun sizes => ("!cols", sizes)).toList ++
    ((sizesJson "hpx" sheet.rows).map fun sizes => ("!rows", sizes)).toList ++
    sheet.cells.entries.map fun cell => (cell.1.text, cellJson cell.2))

/-- A workbook as JSON, members in the order of their keys. -/
def toJson (book : Workbook) : Json :=
  Json.settled (.object [
    ("SheetNames", .array (book.names.map Json.string)),
    ("Sheets", .object (book.sheets.map fun sheet => (sheet.name, sheetJson sheet)))])

/-- Writes a workbook. -/
def write (book : Workbook) : List UInt8 := utf8 (toJson book).pretty

/-! ### Reading -/

/-- Reads the value of a cell of a type; none if it is of another type. -/
def readValue? (type : CellType) (value : Json) : Option (Except GridError CellValue) :=
  match type with
  | .text => value.string?.map fun s => .ok (.text s)
  | .number => value.binary64?.map CellValue.ofNumber
  | .boolean => value.bool?.map fun b => .ok (.boolean b)
  | .date => (value.string?.bind fun s => DateTime.read? s.toList).map fun d => .ok (.date d)

/-- Reads a cell; `key` is its address. -/
def readCell (key : String) (cell : Json) : Except GridError CellValue :=
  let parts : Option (CellType × Json) := do
    let record ← cell.record? ["t", "v"]
    let type ← record.required? "t" fun t => t.variantName?.bind CellType.ofTag?
    let value ← record.required? "v" some
    some (type, value)
  match parts with
  | none => .error .malformedJson
  | some (type, value) => (readValue? type value).getD (.error (.typeMismatch key type.tag))

/-- Reads an address. -/
def readAddress (text : String) : Except GridError Address :=
  match Address.read? text.toList with
  | some a => .ok a
  | none => .error (.invalidAddress text)

/-- Reads a range. -/
def readRange (text : String) : Except GridError CellRange :=
  match CellRange.read? text.toList with
  | some range => .ok range
  | none => .error (.invalidRange text)

/-- Reads the members of a sheet that are cells. -/
def readCells (sheet : Worksheet) (members : List (String × Json)) :
    Except GridError Worksheet :=
  members.foldlM (fun sheet (key, cell) =>
    if startsWith key.toList ['!'] then .ok sheet
    else do
      let a ← readAddress key
      let value ← readCell key cell
      .ok (sheet.set a value)) sheet

/-- Reads the size of a line; none if it has none of its own. -/
def readSize? (key : String) (entry : Json) : Option Binary64 :=
  ((entry.record? [key]).bind fun record => record.nullable? key (Json.orNull? Json.binary64?)).join

/-- Reads the sizes along an axis. What is no list, and entries that are no sizes, are ignored. -/
def readSizes (key : String) (sizes : Sizes Binary64) (list : Option Json) : Sizes Binary64 :=
  sizes.setAll ((((list.bind Json.items?).getD []).zipIdx).filterMap fun (entry, i) =>
    (readSize? key entry).map fun size => (.capped i, size))

/-- Reads a sheet. -/
def readSheet (name : String) (members : List (String × Json)) : Except GridError Worksheet := do
  let sheet ← readCells (.empty name) members
  let sheet ← match (members.lookup "!ref").bind Json.string? with
    | some text => (readRange text).map sheet.cover
    | none => .ok sheet
  .ok { sheet with
    columns := readSizes "wpx" sheet.columns (members.lookup "!cols")
    rows := readSizes "hpx" sheet.rows (members.lookup "!rows") }

/-- Reads the sheet of a name from a document and adds it to a workbook. -/
def readNamed (document : Json) (book : Workbook) (name : Json) : Except GridError Workbook :=
  match name.string? with
  | none => .error .sheetNameNotText
  | some name =>
    match ((document.get? "Sheets").bind (·.get? name)).bind Json.members? with
    | none => .error (.missingSheet name)
    | some members => (readSheet name members).map book.push

/-- Reads the workbook of a document. -/
def ofJson (document : Json) : Except GridError Workbook :=
  match (document.get? "SheetNames").bind Json.items? with
  | none => .error .missingSheetNames
  | some names => names.foldlM (readNamed document) .empty

/-- Reads a workbook. -/
def read (bytes : List UInt8) : Except GridError Workbook :=
  match (ofUtf8? bytes).bind Json.read? with
  | none => .error .malformedJson
  | some document => ofJson document.settled

end JsonFile

end EnsembleDesk
