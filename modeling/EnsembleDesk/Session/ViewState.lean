import EnsembleDesk.Json.Printer
import EnsembleDesk.Json.Record
import EnsembleDesk.Sheet.Problem
import EnsembleDesk.Sheet.Selection
import EnsembleDesk.Sheet.Viewport
/-!
# View states

How a file was looked at: the visible sheet, and for each sheet the selection, the scroll position
and the sizes that were set. The host keeps it as JSON between sessions (`FileView.text`,
`FileView.read`).

A view is read from its document as it is written: a member that names nothing of a view must be
well written, and no more is asked of it.
-/

namespace EnsembleDesk

/-- How a sheet was looked at. -/
structure SheetView where
  /-- The name of the sheet. -/
  sheet : String
  /-- The selection. -/
  selection : Option Selection := none
  /-- The scroll position. -/
  scroll : Pair Binary64 := ⟨0, 0⟩
  /-- The widths of columns. -/
  columnWidths : Sparse Index Binary64 := .empty
  /-- The heights of rows. -/
  rowHeights : Sparse Index Binary64 := .empty
deriving DecidableEq

/-- How a file was looked at. -/
structure FileView where
  /-- The name of the visible sheet. -/
  visible : String := ""
  /-- How its sheets were looked at. -/
  sheets : List SheetView := []
deriving DecidableEq

namespace FileView

/-- How a sheet was looked at. -/
def sheet? (view : FileView) (name : String) : Option SheetView :=
  view.sheets.find? fun sheet => sheet.sheet == name

/-- Replaces the first of some views that is of the same sheet, or adds a view at the end. -/
def replaceFirst (state : SheetView) : List SheetView → List SheetView
  | [] => [state]
  | head :: rest =>
    if head.sheet = state.sheet then state :: rest else head :: replaceFirst state rest

/-- Puts the view of a sheet in place of the one that is there. -/
def put (view : FileView) (state : SheetView) : FileView :=
  { view with sheets := replaceFirst state view.sheets }

end FileView

/-! ### Writing -/

namespace SheetView

/-- An address as JSON. -/
def addressJson (a : Address) : Json :=
  .object [("row", .ofNat a.row.val), ("column", .ofNat a.column.val)]

/-- A selection as JSON. -/
def selectionJson (selection : Selection) : Json :=
  .object [("start", addressJson selection.anchor), ("end", addressJson selection.corner)]

/-- Sizes as JSON. -/
def sizesJson (sizes : Sparse Index Binary64) : Json :=
  .object (sizes.entries.map fun entry => (natText entry.1.val, .ofBinary64 entry.2))

/-- The view of a sheet as JSON. -/
def toJson (view : SheetView) : Json :=
  .object [("worksheetName", .string view.sheet),
    ("selection", .ofOption (view.selection.map selectionJson)),
    ("scrollLeft", .ofBinary64 view.scroll.left), ("scrollTop", .ofBinary64 view.scroll.top),
    ("columnWidths", sizesJson view.columnWidths), ("rowHeights", sizesJson view.rowHeights)]

end SheetView

namespace FileView

/-- The view of a file as JSON. -/
def toJson (view : FileView) : Json :=
  .object [("visibleWorksheetName", .string view.visible),
    ("viewStates", .array (view.sheets.map SheetView.toJson))]

/-- The text that the host keeps. -/
def text (view : FileView) : String := view.toJson.compact

end FileView

/-! ### Reading -/

namespace SheetView

/-- Reads an address. -/
def readAddress? (value : WrittenJson) : Option Address := do
  let record ← value.record? ["row", "column"]
  let row ← record.required? "row" WrittenJson.word?
  let column ← record.required? "column" WrittenJson.word?
  some ⟨row, column⟩

/-- Reads a selection. -/
def readSelection? (value : WrittenJson) : Option Selection := do
  let record ← value.record? ["start", "end"]
  let anchor ← record.required? "start" readAddress?
  let corner ← record.required? "end" readAddress?
  some ⟨anchor, corner⟩

/-- The index that decimal digits without a zero in front write. -/
def indexOfDigits? : List Char → Option Index
  | [] => none
  | '0' :: _ :: _ => none
  | digits =>
    if h : digits.all Char.isDigit ∧ digitsValue digits < 4294967296 then
      some ⟨digitsValue digits, h.2⟩
    else none

/-- Reads a key that is an index. Its digits are written as themselves. -/
def readIndex? (key : List WrittenChar) : Option Index :=
  (key.mapM WrittenChar.plain?).bind indexOfDigits?

/-- Reads sizes. -/
def readSizes? (value : WrittenJson) : Option (Sparse Index Binary64) := do
  let members ← value.members?
  let entries ← members.mapM fun (key, size) => do
    let i ← readIndex? key
    let size ← size.binary64?
    some (i, size)
  some (.ofList entries)

/-- Reads the view of a sheet. -/
def ofJson? (value : WrittenJson) : Option SheetView := do
  let record ← value.record? ["worksheetName", "selection", "scrollLeft", "scrollTop",
    "columnWidths", "rowHeights"]
  let sheet ← record.required? "worksheetName" WrittenJson.string?
  let selection ← record.nullable? "selection" (WrittenJson.orNull? readSelection?)
  let left ← record.required? "scrollLeft" WrittenJson.binary64?
  let top ← record.required? "scrollTop" WrittenJson.binary64?
  let columnWidths ← record.defaulted? "columnWidths" .empty readSizes?
  let rowHeights ← record.defaulted? "rowHeights" .empty readSizes?
  some ⟨sheet, selection, ⟨left, top⟩, columnWidths, rowHeights⟩

end SheetView

namespace FileView

/-- Reads the view of a file. -/
def ofJson? (value : WrittenJson) : Option FileView := do
  let record ← value.record? ["visibleWorksheetName", "viewStates"]
  let visible ← record.required? "visibleWorksheetName" WrittenJson.string?
  let sheets ← record.defaulted? "viewStates" [] fun v =>
    v.items?.bind fun items => items.mapM SheetView.ofJson?
  some ⟨visible, sheets⟩

/-- Reads the text that the host keeps. -/
def read (text : String) : Except GridError FileView :=
  match (WrittenJson.read? text).bind ofJson? with
  | some view => .ok view
  | none => .error .malformedJson

end FileView

end EnsembleDesk
