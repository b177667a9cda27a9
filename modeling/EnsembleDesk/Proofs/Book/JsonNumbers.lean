import EnsembleDesk.Proofs.Book.JsonReadable
import EnsembleDesk.Proofs.Json.NumberText
/-!
# Numbers that have been through a file

The text of a number need not be read as the number, but the text of a finite one is always read as
a finite one. So a file that was written is read for the document of the workbook with the numbers
that its numbers are read as (`JsonFile.read_write_eq`), and whether it can be read does not depend
on what these numbers are (`Workbook.read_write_eq_ok_iff`).

## Main results

* `JsonFile.toJson_throughText`: the document of a workbook whose numbers have been through text;
* `Workbook.read_write_eq_ok_iff`: which workbooks can be read from their files;
* `Workbook.placed_of_read_write`: what is read has the same sheets with the same used cells.
-/

namespace EnsembleDesk

/-! ### Numbers -/

/-- The number that a finite number is read as from its text. -/
def Binary64.throughText (x : Binary64) : Binary64 :=
  if x.isFinite then ((JsonNumber.float x).written.value?.map JsonNumber.toBinary64).getD x else x

/-- A finite number is read as a finite number from its text. -/
theorem Binary64.throughText_of_isFinite {x : Binary64} (h : x.isFinite = true) :
    (JsonNumber.float x).ReadsAs (.float x.throughText) ∧ x.throughText.isFinite = true := by
  obtain ⟨number, y, hread, hvalue, hfinite⟩ := exists_read_json h
  have hreads : (JsonNumber.float x).ReadsAs (.float y) := ⟨number, hread, hvalue⟩
  have hsame : x.throughText = y := by
    rw [throughText, if_pos h, hreads.written.2]
    rfl
  rw [hsame]
  exact ⟨hreads, hfinite⟩

/-- Text keeps whether a number is finite. -/
@[simp] theorem Binary64.isFinite_throughText (x : Binary64) :
    x.throughText.isFinite = x.isFinite := by
  cases h : x.isFinite with
  | true => exact (throughText_of_isFinite h).2
  | false => rw [throughText, if_neg (by rw [h]; exact Bool.false_ne_true), h]

/-- A number of a document that has been through text. -/
def JsonNumber.throughText : JsonNumber → JsonNumber
  | integer n => integer n
  | float x => float x.throughText

/-! ### Documents -/

namespace Json

/-- Changing the numbers of a value does not change the order of its members. -/
theorem settled_mapNumbers (f : JsonNumber → JsonNumber) (value : Json) :
    (value.mapNumbers f).settled = value.settled.mapNumbers f := by
  induction value using Json.induct with
  | null => rw [settled, mapNumbers, settled]
  | bool b => rw [settled, mapNumbers, settled]
  | number n => rw [settled, mapNumbers, settled]
  | string s => rw [settled, mapNumbers, settled]
  | array items ih =>
    rw [mapNumbers_array, settled_array, settled_array, mapNumbers_array, List.map_map,
      List.map_map]
    exact congrArg array (List.map_congr_left ih)
  | object members ih =>
    rw [mapNumbers_object, settled_object, settled_object, mapNumbers_object, List.map_map,
      ← settleMembers_map, List.map_map]
    refine congrArg (fun members => object (settleMembers members)) (List.map_congr_left ?_)
    exact fun member hmember => Prod.ext rfl (ih member hmember)

/-- A number that has been through text is written as what it was read as. -/
theorem mapNumbers_ofBinary64 (x : Binary64) :
    (ofBinary64 x).mapNumbers .throughText = ofBinary64 x.throughText := by
  rw [ofBinary64, ofBinary64, Binary64.isFinite_throughText]
  split
  · rw [mapNumbers, JsonNumber.throughText]
  · rw [mapNumbers]

end Json

/-! ### Sheets and workbooks -/

namespace Sparse

variable {κ α β : Type} [Position κ] (f : α → β) (table : Sparse κ α)

/-- The table with other values at the same positions. -/
def map : Sparse κ β :=
  ⟨table.entries.map fun entry => (entry.1, f entry.2), List.pairwise_map.2 table.ordered⟩

/-- Other values stand at the same positions. -/
theorem positions_map : (table.map f).positions = table.positions := by
  rw [positions, positions, map, List.map_map]
  rfl

/-- A value is looked up after it was changed as before. -/
theorem get?_map (position : κ) : (table.map f).get? position = (table.get? position).map f := by
  have hfind : ∀ entries : List (κ × α),
      find position (entries.map fun entry => (entry.1, f entry.2)) =
        (find position entries).map f := by
    intro entries
    induction entries with
    | nil => rfl
    | cons entry entries ih =>
      rw [List.map_cons, find, find]
      split
      · rfl
      · exact ih
  exact hfind table.entries

end Sparse

/-- The value with a number that has been through text. -/
def CellValue.throughText : CellValue → CellValue
  | number x => number x.throughText
  | value => value

/-- The sizes that lines have of their own, through text. -/
def Sizes.throughText (sizes : Sizes Binary64) : Sizes Binary64 :=
  { sizes with own := sizes.own.map Binary64.throughText }

/-- The sheet with numbers that have been through text. -/
def Worksheet.throughText (sheet : Worksheet) : Worksheet :=
  { sheet with
    cells := sheet.cells.map CellValue.throughText
    columns := sheet.columns.throughText
    rows := sheet.rows.throughText }

/-- The workbook with numbers that have been through text. -/
def Workbook.throughText (book : Workbook) : Workbook :=
  ⟨book.sheets.map Worksheet.throughText⟩

/-- Text keeps whether a value is finite. -/
theorem CellValue.isFinite_throughText (value : CellValue) :
    value.throughText.IsFinite ↔ value.IsFinite := by
  cases value with
  | number x => exact iff_of_eq (congrArg (· = true) x.isFinite_throughText)
  | _ => exact Iff.rfl

/-- Text keeps the cells where they are covered. -/
theorem Worksheet.covered_throughText {sheet : Worksheet} (h : sheet.Covered) :
    sheet.throughText.Covered := by
  intro a value hvalue
  rw [Worksheet.value, throughText, Sparse.get?_map, Option.map_eq_some_iff] at hvalue
  obtain ⟨before, hbefore, -⟩ := hvalue
  exact h a before hbefore

/-- Text keeps the names of the sheets. -/
theorem Workbook.names_throughText (book : Workbook) : book.throughText.names = book.names := by
  rw [names, names, throughText, List.map_map]
  rfl

/-- A workbook stays orderly through text. -/
theorem Workbook.orderly_throughText {book : Workbook} (h : book.Orderly) :
    book.throughText.Orderly where
  names := by
    rw [names_throughText]
    exact h.names
  covered := by
    intro sheet hsheet
    obtain ⟨before, hbefore, rfl⟩ := List.mem_map.1 hsheet
    exact Worksheet.covered_throughText (h.covered before hbefore)

namespace JsonFile

/-- Only the number of a cell changes in text. -/
theorem mapNumbers_cellJson (value : CellValue) :
    (cellJson value).mapNumbers .throughText = cellJson value.throughText := by
  have hvalue : (valueJson value).mapNumbers .throughText = valueJson value.throughText := by
    cases value with
    | number x => exact Json.mapNumbers_ofBinary64 x
    | _ => rw [valueJson, Json.mapNumbers]; rfl
  have htype : value.throughText.type = value.type := by
    cases value <;> rfl
  rw [cellJson, Json.mapNumbers_object, List.map_cons, List.map_cons, List.map_nil, hvalue,
    Json.mapNumbers, cellJson, htype]

/-- Only the numbers of sizes change in text. -/
theorem mapNumbers_sizesJson (key : String) (sizes : Sizes Binary64) :
    (sizesJson key sizes).map (Json.mapNumbers .throughText) =
      sizesJson key sizes.throughText := by
  have hentry : ∀ size : Option Binary64, (sizeEntry key size).mapNumbers .throughText =
      sizeEntry key (size.map Binary64.throughText) := by
    intro size
    cases size with
    | none => rw [sizeEntry, Json.mapNumbers]; rfl
    | some x =>
      rw [sizeEntry, Json.mapNumbers_object, List.map_cons, List.map_nil,
        Json.mapNumbers_ofBinary64]
      rfl
  rw [sizesJson_eq, sizesJson_eq, Option.map_map, Sizes.throughText, Sparse.positions_map]
  refine congrArg (Option.map · _) (funext fun last => ?_)
  rw [Function.comp_apply, Json.mapNumbers_array, List.map_map]
  refine congrArg Json.array (List.map_congr_left fun i _ => ?_)
  rw [Function.comp_apply, hentry, Sparse.get?_map]

/-- Only the numbers of a sheet change in text. -/
theorem mapNumbers_sheetJson (sheet : Worksheet) :
    (sheetJson sheet).mapNumbers .throughText = sheetJson sheet.throughText := by
  have hcells : (cellMembers sheet.cells.entries).map
      (fun member => (member.1, member.2.mapNumbers .throughText)) =
        cellMembers sheet.throughText.cells.entries := by
    rw [cellMembers, cellMembers, Worksheet.throughText, Sparse.map, List.map_map, List.map_map]
    refine List.map_congr_left fun cell _ => ?_
    exact Prod.ext rfl (mapNumbers_cellJson cell.2)
  have hsizes : ∀ (key name : String) (sizes : Sizes Binary64),
      ((sizesJson key sizes).map fun list => (name, list.mapNumbers .throughText)) =
        (sizesJson key sizes.throughText).map fun list => (name, list) := by
    intro key name sizes
    rw [← mapNumbers_sizesJson, Option.map_map]
    rfl
  rw [sheetJson_eq, sheetJson_eq, Json.mapNumbers_object, sheetMembers, sheetMembers,
    List.map_append, hcells, noteMembers, noteMembers, List.map_append, List.map_append]
  simp only [← Option.toList_map, Option.map_map, Function.comp_def, hsizes, Json.mapNumbers,
    Worksheet.throughText]

/-- The document of a workbook whose numbers have been through text. -/
theorem toJson_throughText (book : Workbook) :
    toJson book.throughText = (toJson book).mapNumbers .throughText := by
  have hnames : (book.names.map Json.string).map (Json.mapNumbers .throughText) =
      book.names.map Json.string := by
    rw [List.map_map]
    refine List.map_congr_left fun name _ => ?_
    rw [Function.comp_apply, Json.mapNumbers]
  have hsheets : (book.sheets.map fun sheet => (sheet.name, sheetJson sheet)).map
      (fun member => (member.1, member.2.mapNumbers .throughText)) =
        book.throughText.sheets.map fun sheet => (sheet.name, sheetJson sheet) := by
    rw [Workbook.throughText, List.map_map, List.map_map]
    refine List.map_congr_left fun sheet _ => ?_
    exact Prod.ext rfl (mapNumbers_sheetJson sheet)
  rw [toJson, toJson, ← Json.settled_mapNumbers, Json.mapNumbers_object, List.map_cons,
    List.map_cons, List.map_nil, Json.mapNumbers_array, Json.mapNumbers_object, hnames, hsheets,
    Workbook.names_throughText]

/-- A file that was written is read for the document with the numbers that its numbers are read
as. -/
theorem read_write_eq (book : Workbook) :
    read (write book) = ofJson (toJson book.throughText) := by
  have hnumbers : (toJson book).Nested (fun n => n.ReadsAs n.throughText) 127 :=
    nested_toJson fun sheet _ x _ hfinite => (Binary64.throughText_of_isFinite hfinite).1
  -- a reader settles the document, which is settled as it is written
  have hsettled : (toJson book.throughText).settled = toJson book.throughText :=
    Json.settled_settled _
  rw [read, write, ofUtf8?_utf8, Option.bind_some, Json.read?_pretty_mapNumbers hnumbers,
    ← toJson_throughText]
  dsimp only
  rw [hsettled]

/-- Whether a sheet is written readably does not depend on its numbers. -/
theorem writtenReadably_throughText (sheet : Worksheet) :
    WrittenReadably sheet.throughText ↔ WrittenReadably sheet := by
  simp only [WrittenReadably, Worksheet.Bounded, Worksheet.CellsFinite, Worksheet.throughText,
    Sparse.map, List.forall_mem_map, CellValue.isFinite_throughText]

end JsonFile

namespace Workbook

/-- The names of the sheets, each with the positions of its cells and its used range. -/
def placed (book : Workbook) : List (String × List Address × Option CellRange) :=
  book.sheets.map fun sheet => (sheet.name, sheet.cells.positions, sheet.used)

/-- Text keeps where cells stand and which range is used. -/
theorem placed_throughText (book : Workbook) : book.throughText.placed = book.placed := by
  rw [placed, placed, throughText, List.map_map]
  refine List.map_congr_left fun sheet _ => ?_
  exact Prod.ext rfl (Prod.ext (Sparse.positions_map _ sheet.cells) rfl)

variable {book read : Workbook}

/-- A workbook is read from its file if nothing is in it that is refused, and not otherwise. -/
theorem read_write_eq_ok_iff (h : book.Orderly) :
    (∃ read, JsonFile.read (JsonFile.write book) = .ok read) ↔
      ∀ sheet ∈ book.sheets, JsonFile.WrittenReadably sheet := by
  rw [JsonFile.read_write_eq, JsonFile.ofJson_toJson_eq_ok_iff (orderly_throughText h),
    throughText, List.forall_mem_map]
  exact forall₂_congr fun sheet _ => JsonFile.writtenReadably_throughText sheet

/-- What is read from the file of a workbook, with the numbers that their texts are read as. -/
theorem eq_of_read_write (h : book.Orderly)
    (hread : JsonFile.read (JsonFile.write book) = .ok read) :
    read = ⟨book.throughText.sheets.map JsonFile.reading⟩ := by
  have hsheets := (read_write_eq_ok_iff h).1 ⟨read, hread⟩
  have hthrough : ∀ sheet ∈ book.throughText.sheets, JsonFile.WrittenReadably sheet := by
    intro sheet hsheet
    obtain ⟨before, hbefore, rfl⟩ := List.mem_map.1 hsheet
    exact (JsonFile.writtenReadably_throughText before).2 (hsheets before hbefore)
  rw [JsonFile.read_write_eq, JsonFile.ofJson_toJson_reading (orderly_throughText h) hthrough]
    at hread
  exact (Except.ok.inj hread).symm

/-- What is read from the file of a workbook has the same sheets, with cells in the same places. -/
theorem placed_of_read_write (h : book.Orderly)
    (hread : JsonFile.read (JsonFile.write book) = .ok read) : read.placed = book.placed := by
  rw [eq_of_read_write h hread, ← placed_throughText book, placed, placed, List.map_map]
  rfl

end Workbook

end EnsembleDesk
