import EnsembleDesk.Json.Record
import EnsembleDesk.Settings.Store
import EnsembleDesk.Sheet.Index
/-!
# Settings of the grid

What the user can choose about the spreadsheet editor, as the section `ert.grid` of the settings.
-/

namespace EnsembleDesk

/-- What the user can choose about the spreadsheet editor. -/
structure GridOptions where
  /-- The width of a column that has none of its own. -/
  columnWidth : Binary64 := 100.0
  /-- The height of a row that has none of its own. -/
  rowHeight : Binary64 := 24.0
  /-- How many lines are shown beyond the visible ones. -/
  overscan : Index := .capped 2
  /-- The part of the way to the end at which the sheet grows. -/
  growthThreshold : Binary64 := 0.95
  /-- The number of rows of a new sheet. -/
  initialRows : Index := .capped 50
  /-- The number of columns of a new sheet. -/
  initialColumns : Index := .capped 26
deriving DecidableEq, Inhabited

namespace GridOptions

/-- The section of the settings. -/
def sectionName : String := "ert.grid"

/-- Reads a section. -/
def ofJson? (value : Json) : Option GridOptions := do
  let record ← value.record? ["default_column_width", "default_row_height", "overscan",
    "growth_threshold", "initial_rows", "initial_columns"]
  let default : GridOptions := {}
  let columnWidth ← record.defaulted? "default_column_width" default.columnWidth Json.binary64?
  let rowHeight ← record.defaulted? "default_row_height" default.rowHeight Json.binary64?
  let overscan ← record.defaulted? "overscan" default.overscan Json.word?
  let growthThreshold ←
    record.defaulted? "growth_threshold" default.growthThreshold Json.binary64?
  let initialRows ← record.defaulted? "initial_rows" default.initialRows Json.word?
  let initialColumns ← record.defaulted? "initial_columns" default.initialColumns Json.word?
  some ⟨columnWidth, rowHeight, overscan, growthThreshold, initialRows, initialColumns⟩

/-- The options as a section. -/
def toJson (options : GridOptions) : Json :=
  .object [("default_column_width", .ofBinary64 options.columnWidth),
    ("default_row_height", .ofBinary64 options.rowHeight),
    ("overscan", .ofNat options.overscan.val),
    ("growth_threshold", .ofBinary64 options.growthThreshold),
    ("initial_rows", .ofNat options.initialRows.val),
    ("initial_columns", .ofNat options.initialColumns.val)]

/-- Reads the options from the settings. -/
def ofSettings (settings : Settings) : GridOptions := settings.read sectionName {} ofJson?

end GridOptions

end EnsembleDesk
