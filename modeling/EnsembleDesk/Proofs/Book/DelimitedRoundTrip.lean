import EnsembleDesk.Book.Format
import EnsembleDesk.Proofs.Book.Cells
import EnsembleDesk.Proofs.Result
import EnsembleDesk.Proofs.Sheet.Equality
import EnsembleDesk.Proofs.Sheet.UsedRange
import EnsembleDesk.Proofs.Text.Delimited
import Mathlib.Data.List.Induction
/-!
# Delimited text reads back the sheet it was written from

A delimited text says where a cell is by its place alone: the row is the number of records before it
and the column the number of fields before it. So every row and column up to the last used ones has
to be written, also the empty ones, and what is written for an empty cell has to be read as one.

The sheet that is read therefore shows in each cell what the typed text of the cell means
(`DelimitedFile.value_sheetOf_shownRows`), and a text whose cells mean what they show keeps them all
(`Workbook.read_write_delimited`).
-/

namespace EnsembleDesk

namespace DelimitedFile

/-! ### Sheets of rows -/

/-- The cell that a row of fields has in a column. -/
def cellOf (fields : List String) (column : Nat) : Option CellValue :=
  fields[column]?.bind fun field => CellValue.ofInput field.toList

/-- A field behind the others fills the column next to them. -/
theorem cellOf_append_singleton (fields : List String) (field : String) (column : Nat) :
    cellOf (fields ++ [field]) column =
      if column = fields.length then CellValue.ofInput field.toList else cellOf fields column := by
  rw [cellOf, List.getElem?_append]
  by_cases hlt : column < fields.length
  · rw [if_pos hlt, if_neg (Nat.ne_of_lt hlt), cellOf]
  · rw [if_neg hlt]
    split
    · rename_i heq
      rw [heq, Nat.sub_self]
      rfl
    · rename_i hne
      have hout : fields.length + 1 ≤ column := by omega
      simp [cellOf, List.getElem?_eq_none (Nat.le_of_succ_le hout),
        show column - fields.length ≠ 0 by omega]

/-- The index of a place among fewer than all lines. -/
theorem eq_capped_iff {i : Index} {n : Nat} (hn : n < 4294967296) : i = .capped n ↔ i.val = n := by
  rw [Fin.ext_iff, Index.val_capped, Nat.min_eq_left (by omega)]

/-- The field behind the others fills its cell, unless it is blank. -/
theorem value_putFields_append (sheet : Worksheet) (row : Index) (fields : List String)
    (field : String) (a : Address) :
    (putFields sheet row (fields ++ [field])).value a =
      if a = ⟨row, .capped fields.length⟩ then
        (CellValue.ofInput field.toList).or ((putFields sheet row fields).value a)
      else (putFields sheet row fields).value a := by
  simp only [putFields, List.zipIdx_append, List.foldl_append, List.zipIdx_cons, List.zipIdx_nil,
    List.foldl_cons, List.foldl_nil, Nat.zero_add]
  cases CellValue.ofInput field.toList with
  | none => simp
  | some value => simp [Worksheet.value_set, eq_comm]

/-- A row of fields fills its row of the sheet and no other. -/
theorem value_putFields (sheet : Worksheet) (row : Index) {fields : List String}
    (hfields : fields.length ≤ 4294967296) (a : Address) :
    (putFields sheet row fields).value a =
      if a.row = row then (cellOf fields a.column.val).or (sheet.value a) else sheet.value a := by
  induction fields using List.reverseRecOn with
  | nil => simp [putFields, cellOf]
  | append_singleton fields field ih =>
    rw [List.length_append, List.length_singleton] at hfields
    have hcolumn := eq_capped_iff (i := a.column) hfields
    have hplace : a = ⟨row, .capped fields.length⟩ ↔
        a.row = row ∧ a.column.val = fields.length := by
      rw [← hcolumn]
      exact ⟨fun h => by simp [h], fun h => by rw [← h.1, ← h.2]⟩
    rw [value_putFields_append, ih (Nat.le_of_succ_le hfields), cellOf_append_singleton]
    by_cases hrow : a.row = row
    · by_cases hlast : a.column.val = fields.length
      -- the columns of the fields before end in front of it
      · have hout : cellOf fields fields.length = none := by simp [cellOf]
        rw [if_pos (hplace.2 ⟨hrow, hlast⟩), if_pos hrow, if_pos hrow, if_pos hlast, hlast, hout,
          Option.none_or]
      · rw [if_neg (fun h => hlast (hplace.1 h).2), if_pos hrow, if_pos hrow, if_neg hlast]
    · rw [if_neg (fun h => hrow (hplace.1 h).1), if_neg hrow, if_neg hrow]

/-- The cells of a sheet of rows stand where their fields do. -/
theorem value_sheetOf {rows : List (List String)} (hrows : rows.length ≤ 4294967296)
    (hfields : ∀ fields ∈ rows, fields.length ≤ 4294967296) (a : Address) :
    (sheetOf rows).value a = rows[a.row.val]?.bind fun fields => cellOf fields a.column.val := by
  induction rows using List.reverseRecOn with
  | nil => rfl
  | append_singleton rows fields ih =>
    rw [List.length_append, List.length_singleton] at hrows
    have hput : sheetOf (rows ++ [fields]) =
        putFields (sheetOf rows) (.capped rows.length) fields := by
      simp [sheetOf, List.zipIdx_append]
    have hrow := eq_capped_iff (i := a.row) hrows
    rw [hput, value_putFields _ _ (hfields fields (by simp)),
      ih (Nat.le_of_succ_le hrows) fun other hother => hfields other (by simp [hother]),
      List.getElem?_append]
    by_cases hlast : a.row.val = rows.length
    -- the records before have left the row empty
    · rw [if_pos (hrow.2 hlast), if_neg (by omega), hlast, Nat.sub_self,
        List.getElem?_eq_none (Nat.le_refl _)]
      simp
    · rw [if_neg (fun h => hlast (hrow.1 h))]
      split
      · rfl
      · have hout : rows.length < a.row.val := by omega
        simp [List.getElem?_eq_none (Nat.le_of_lt hout),
          show a.row.val - rows.length ≠ 0 by omega]

/-! ### What is written of a sheet -/

/-- What is shown in the rows and columns up to the last used ones. -/
def shownRows (sheet : Worksheet) : List (List String) :=
  match sheet.used with
  | none => []
  | some used => (List.range (used.rows.stop.val + 1)).map fun row =>
    (List.range (used.columns.stop.val + 1)).map fun column =>
      CellValue.displayCell (sheet.value ⟨.capped row, .capped column⟩)

/-- The rows of a file are those that are shown, as bytes. -/
theorem rowsOf_eq (sheet : Worksheet) :
    rowsOf sheet = (shownRows sheet).map fun fields => fields.map utf8 := by
  rw [rowsOf, shownRows]
  cases sheet.used with
  | none => rfl
  | some used =>
    simp only [List.map_map]
    refine List.map_congr_left fun row _ => ?_
    rw [rowFields, Function.comp_apply, List.map_map]
    rfl

/-- No more rows are shown than there are indices. -/
theorem length_shownRows_le (sheet : Worksheet) : (shownRows sheet).length ≤ 4294967296 := by
  rw [shownRows]
  cases sheet.used with
  | none => exact Nat.zero_le _
  | some used =>
    have := used.rows.stop.isLt
    simp only [List.length_map, List.length_range]
    omega

/-- A row that is shown has a field, and no more fields than there are indices. -/
theorem length_of_mem_shownRows {sheet : Worksheet} {fields : List String}
    (h : fields ∈ shownRows sheet) : fields ≠ [] ∧ fields.length ≤ 4294967296 := by
  rw [shownRows] at h
  cases hused : sheet.used with
  | none =>
    rw [hused] at h
    cases h
  | some used =>
    rw [hused] at h
    obtain ⟨row, -, rfl⟩ := List.mem_map.1 h
    have := used.columns.stop.isLt
    have hlength : ((List.range (used.columns.stop.val + 1)).map fun column =>
        CellValue.displayCell (sheet.value ⟨.capped row, .capped column⟩)).length =
          used.columns.stop.val + 1 := by simp
    refine ⟨fun hnil => ?_, by omega⟩
    rw [hnil, List.length_nil] at hlength
    omega

/-- An index is not capped. -/
theorem capped_val (i : Index) : Index.capped i.val = i := by
  rw [Fin.ext_iff, Index.val_capped]
  omega

/-- In the sheet that is read from what is shown, every cell means what is shown in it. -/
theorem value_sheetOf_shownRows {sheet : Worksheet} (h : sheet.Covered) (a : Address) :
    (sheetOf (shownRows sheet)).value a =
      (sheet.value a).bind fun v => CellValue.ofInput v.display.toList := by
  rw [value_sheetOf (length_shownRows_le sheet) fun _ hmem => (length_of_mem_shownRows hmem).2]
  -- a cell that is not written is not in the used range, and so is empty
  have hempty : (∀ used, sheet.used = some used → ¬ (a.row.val ≤ used.rows.stop.val ∧
      a.column.val ≤ used.columns.stop.val)) → sheet.value a = none := by
    intro hout
    refine Option.eq_none_iff_forall_ne_some.2 fun v hv => ?_
    obtain ⟨used, hused, hmem⟩ := h a v hv
    exact hout used hused ⟨hmem.1.2, hmem.2.2⟩
  rw [shownRows]
  cases hused : sheet.used with
  | none =>
    rw [hempty fun used hsome => nomatch hused.symm.trans hsome]
    rfl
  | some used =>
    by_cases hin : a.row.val ≤ used.rows.stop.val ∧ a.column.val ≤ used.columns.stop.val
    · have hrow : (List.range (used.rows.stop.val + 1))[a.row.val]? = some a.row.val :=
        List.getElem?_range (by omega)
      have hcolumn : (List.range (used.columns.stop.val + 1))[a.column.val]? =
          some a.column.val := List.getElem?_range (by omega)
      simp only [List.getElem?_map, hrow, Option.map_some, Option.bind_some, cellOf, hcolumn,
        capped_val]
      -- nothing is shown in an empty cell, and nothing means an empty cell
      cases sheet.value a with
      | none => rfl
      | some v => rfl
    · rw [hempty fun other hother => by
        cases hused.symm.trans hother
        exact hin]
      -- there is no field so far on
      have hout :
          used.rows.stop.val + 1 ≤ a.row.val ∨ used.columns.stop.val + 1 ≤ a.column.val := by
        omega
      rcases hout with hrow | hcolumn
      · have hnone : (List.range (used.rows.stop.val + 1))[a.row.val]? = none :=
          List.getElem?_eq_none (by rwa [List.length_range])
        simp only [List.getElem?_map, hnone, Option.map_none, Option.bind_none]
      · have hnone : (List.range (used.columns.stop.val + 1))[a.column.val]? = none :=
          List.getElem?_eq_none (by rwa [List.length_range])
        rw [List.getElem?_map]
        cases (List.range (used.rows.stop.val + 1))[a.row.val]? with
        | none => rfl
        | some row =>
          simp only [Option.map_some, Option.bind_some, cellOf, List.getElem?_map, hnone,
            Option.map_none, Option.bind_none]

/-! ### The byte order mark -/

/-- The byte order mark is the encoding of one character. -/
theorem head?_of_isPrefix_utf8 {text : String} (h : Delimited.byteOrderMark <+: utf8 text) :
    text.toList.head? = some '\uFEFF' := by
  obtain ⟨rest, hrest⟩ := h
  have hencoded : ['\uFEFF'].utf8Encode ++ (⟨rest.toArray⟩ : ByteArray) =
      text.toList.utf8Encode := by
    rw [String.utf8Encode_toList]
    apply ByteArray.ext
    rw [ByteArray.data_append]
    apply Array.toList_inj.1
    rw [Array.toList_append]
    exact hrest
  obtain ⟨others, hothers⟩ := List.isPrefix_of_utf8Encode_append_eq_utf8Encode _ hencoded
  rw [← hothers]
  rfl

/-- A file is read back from the rows that are shown, unless its text seems to begin with a byte
order mark. -/
theorem read_write {delimiter : UInt8} (hdelimiter : Delimited.Separates delimiter)
    (hmark : delimiter ∉ Delimited.byteOrderMark) {book : Workbook} {sheet : Worksheet}
    (hsheet : book.sheets.head? = some sheet)
    (hfirst : (CellValue.displayCell (sheet.value ⟨.first, .first⟩)).toList.head? ≠
      some '\uFEFF') :
    read delimiter (write delimiter book) = .ok ⟨[sheetOf (shownRows sheet)]⟩ := by
  have hrows : ∀ fields ∈ rowsOf sheet, fields ≠ [] := by
    rw [rowsOf_eq]
    intro fields hmem
    obtain ⟨shown, hshown, rfl⟩ := List.mem_map.1 hmem
    exact mt List.map_eq_nil_iff.1 (length_of_mem_shownRows hshown).1
  have hstart : ∀ fields ∈ (rowsOf sheet).head?, ∀ field ∈ fields.head?,
      ¬ Delimited.byteOrderMark <+: field := by
    intro fields hfields field hfield hprefix
    refine hfirst (head?_of_isPrefix_utf8 ?_)
    rw [rowsOf] at hfields
    cases hused : sheet.used with
    | none =>
      rw [hused] at hfields
      cases hfields
    | some used =>
      -- the first field is that of the first cell, also when the used range begins behind it
      simp only [hused, List.range_succ_eq_map] at hfields
      cases hfields
      rw [rowFields, List.range_succ_eq_map] at hfield
      cases hfield
      exact hprefix
  have hdecoded : (rowsOf sheet).mapM (·.mapM ofUtf8?) = some (shownRows sheet) := by
    have hfields : ∀ fields ∈ shownRows sheet, (fields.map utf8).mapM ofUtf8? = some fields := by
      intro fields _
      have hall : (fields.map utf8).mapM ofUtf8? = some (fields.map fun text => text) :=
        mapM_map_eq_some fun text _ => ofUtf8?_utf8 text
      rwa [List.map_id'] at hall
    have hall := mapM_map_eq_some hfields
    rwa [List.map_id', ← rowsOf_eq] at hall
  simp only [write, hsheet, read]
  rw [Delimited.read_write hdelimiter hmark hrows hstart, hdecoded]
  rfl

end DelimitedFile

/-- The delimiters of files are told apart from quotes and line ends, and are in no byte order
mark. -/
theorem BookFormat.separates_of_ofPath {path : String} {delimiter : UInt8}
    (h : ofPath path = .delimited delimiter) :
    Delimited.Separates delimiter ∧ delimiter ∉ Delimited.byteOrderMark := by
  have hcases : delimiter = comma ∨ delimiter = tab := by
    rw [ofPath] at h
    split at h
    · cases h
    · cases h
      exact .inr rfl
    · cases h
      exact .inl rfl
  rcases hcases with rfl | rfl
  · exact ⟨⟨by decide, by decide⟩, by decide⟩
  · exact ⟨⟨by decide, by decide⟩, by decide⟩

/-- A file of delimited text keeps every cell of the first sheet: what is read from it is one sheet
with the same values in the same cells, however the sheet is filled and wherever its used range
begins. The values have to mean what is shown of them, and the text must not seem to begin with a
byte order mark. -/
theorem Workbook.read_write_delimited {path : String} {delimiter : UInt8}
    (hformat : BookFormat.ofPath path = .delimited delimiter) {book : Workbook} {sheet : Worksheet}
    (hsheet : book.sheets.head? = some sheet) (hcovered : sheet.Covered)
    (hreads : ∀ a v, sheet.value a = some v →
      CellValue.sameCell (CellValue.ofInput v.display.toList) (some v) = true)
    (hfirst : (CellValue.displayCell (sheet.value ⟨.first, .first⟩)).toList.head? ≠
      some '\uFEFF') :
    ∃ read, (BookFormat.ofPath path).read ((BookFormat.ofPath path).write book) = .ok ⟨[read]⟩ ∧
      (∀ a, read.value a = (sheet.value a).bind fun v => CellValue.ofInput v.display.toList) ∧
      ∀ a, CellValue.sameCell (read.value a) (sheet.value a) = true := by
  obtain ⟨hdelimiter, hmark⟩ := BookFormat.separates_of_ofPath hformat
  have hvalue := DelimitedFile.value_sheetOf_shownRows hcovered
  refine ⟨DelimitedFile.sheetOf (DelimitedFile.shownRows sheet), ?_, hvalue, fun a => ?_⟩
  · rw [hformat]
    exact DelimitedFile.read_write hdelimiter hmark hsheet hfirst
  · rw [hvalue]
    cases hcell : sheet.value a with
    | none => rfl
    | some v => exact hreads a v hcell

/-- A sheet with blank rows and columns, and texts with a tab, quotes and a line break in them. -/
def scattered : Worksheet :=
  (((Worksheet.empty "plan").set ⟨2, 1⟩ (.text "a\tb")).set ⟨4, 3⟩
    (.text "she said \"now\"\n")).set ⟨4, 1⟩ (.boolean true)

/-- It is read back from a file of text with tabs. -/
theorem Workbook.read_write_delimited_scattered :
    ∃ read, (BookFormat.ofPath "plan.tsv").read ((BookFormat.ofPath "plan.tsv").write
        ⟨[scattered]⟩) = .ok ⟨[read]⟩ ∧
      ∀ a, CellValue.sameCell (read.value a) (scattered.value a) = true := by
  have hreads : ∀ a v, scattered.value a = some v →
      CellValue.sameCell (CellValue.ofInput v.display.toList) (some v) = true := by
    have hentries : ∀ entry ∈ scattered.cells.entries,
        CellValue.sameCell (CellValue.ofInput entry.2.display.toList) (some entry.2) = true := by
      decide +kernel
    exact fun a v hv => hentries (a, v) (Sparse.get?_eq_some_iff.1 hv)
  obtain ⟨read, hread, -, hvalue⟩ := Workbook.read_write_delimited
    (show BookFormat.ofPath "plan.tsv" = .delimited BookFormat.tab by decide +kernel)
    (show (⟨[scattered]⟩ : Workbook).sheets.head? = some scattered from rfl)
    ((((Worksheet.Covered.empty "plan").set _ _).set _ _).set _ _) hreads (by decide +kernel)
  exact ⟨read, hread, hvalue⟩

end EnsembleDesk
