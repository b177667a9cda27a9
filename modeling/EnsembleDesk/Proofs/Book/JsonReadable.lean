import EnsembleDesk.Proofs.Book.JsonRoundTrip
/-!
# Which documents can be read

The writer of JSON files writes every workbook, and the reader refuses some of what it writes. Lines
are counted from one in an address, so a cell on the last line, or a used range up to it, is written
with a number beyond those that are read; and a number that is not finite is written as null, which
is not read as a number. Sizes that are not finite are written as null as well, but the reader drops
a size that it cannot read.

The document of a workbook is read if, and only if, nothing of that kind is in one of its sheets
(`JsonFile.ofJson_toJson_eq_ok_iff`), and what is read has the same sheets with the same cells
(`JsonFile.ofJson_toJson_reading`).
-/

namespace EnsembleDesk

namespace JsonFile

/-- What a reader finds in a sheet is written in the sheet. -/
def WrittenReadably (sheet : Worksheet) : Prop := sheet.Bounded ∧ sheet.CellsFinite

/-! ### What is refused -/

/-- A cell that is read holds a finite value. -/
theorem isFinite_of_readCell {key : String} {value read : CellValue}
    (h : readCell key (cellJson value) = .ok read) : value.IsFinite := by
  cases value with
  | number x =>
    by_contra hinfinite
    have hnull : valueJson (.number x) = .null := if_neg hinfinite
    have hrefused : readCell key (cellJson (.number x)) =
        .error (.typeMismatch key CellType.number.tag) := by
      rw [cellJson, hnull]
      rfl
    rw [hrefused] at h
    cases h
  | _ => trivial

/-- Cells that are read are read one by one. -/
theorem forall_of_readCells {start read : Worksheet} {members : List (String × Json)}
    (h : readCells start members = .ok read) :
    ∀ member ∈ members, isNote member.1 = false →
      (∃ a, readAddress member.1 = .ok a) ∧ ∃ value, readCell member.1 member.2 = .ok value := by
  intro member hmember hnote
  obtain ⟨before, after, hstep⟩ := Except.exists_of_foldlM_eq_ok h hmember
  have hcell : (do
      let a ← readAddress member.1
      let value ← readCell member.1 member.2
      Except.ok (before.set a value)) = .ok after := by
    rw [isNote] at hnote
    simpa only [hnote, Bool.false_eq_true, if_false] using hstep
  obtain ⟨a, ha, hcell⟩ := Except.bind_eq_ok_iff.1 hcell
  obtain ⟨value, hvalue, -⟩ := Except.bind_eq_ok_iff.1 hcell
  exact ⟨⟨a, ha⟩, value, hvalue⟩

theorem bounded_of_readAddress {a b : Address} (h : readAddress a.text = .ok b) : a.Bounded := by
  rw [readAddress, Address.text, String.toList_ofList] at h
  split at h
  · rename_i hread
    exact Address.bounded_of_read?_chars hread
  · cases h

theorem bounded_of_readRange {range read : CellRange} (h : readRange range.text = .ok read) :
    range.stop.Bounded := by
  rw [readRange, CellRange.text, String.toList_ofList] at h
  split at h
  · rename_i hread
    exact CellRange.bounded_of_read?_chars hread
  · cases h

/-- A sheet that is read has nothing in it that is refused. -/
theorem writtenReadably_of_readSheet {sheet read : Worksheet} {name : String}
    (h : readSheet name (settleMembers (sheetMembers sheet)) = .ok read) :
    WrittenReadably sheet := by
  rw [readSheet] at h
  obtain ⟨cells, hcells, h⟩ := Except.bind_eq_ok_iff.1 h
  have hread := forall_of_readCells hcells
  -- also where two cells had the same key, one of them would be read
  have haddresses : ∀ cell ∈ sheet.cells.entries, cell.1.Bounded := by
    intro cell hcell
    have hkey : cell.1.text ∈ (sheetMembers sheet).map Prod.fst :=
      List.mem_map.2 ⟨_, List.mem_append_right _ (List.mem_map.2 ⟨cell, hcell, rfl⟩), rfl⟩
    obtain ⟨member, hmember, hsame⟩ := List.mem_map.1 (keys_subset_settleMembers _ hkey)
    obtain ⟨a, ha⟩ := (hread member hmember (hsame ▸ isNote_text cell.1)).1
    exact bounded_of_readAddress (hsame ▸ ha)
  have hnodup := sheetMembers_nodup haddresses
  have hmembers : ∀ member ∈ sheetMembers sheet, member ∈ settleMembers (sheetMembers sheet) :=
    fun member hmember => (perm_settleMembers hnodup).mem_iff.2 hmember
  refine ⟨⟨haddresses, fun range hrange => ?_⟩, fun cell hcell => ?_⟩
  · have hused : sheet.used = some range := hrange
    simp only [lookup_settleMembers hnodup, (lookup_sheetMembers sheet).1, hused, Option.map_some,
      Option.bind_some, Json.string?] at h
    obtain ⟨covered, hcovered, -⟩ := Except.bind_eq_ok_iff.1 h
    obtain ⟨readAs, hreadAs, -⟩ := Except.map_eq_ok_iff.1 hcovered
    exact bounded_of_readRange hreadAs
  · have hmember : (cell.1.text, cellJson cell.2) ∈ sheetMembers sheet :=
      List.mem_append_right _ (List.mem_map.2 ⟨cell, hcell, rfl⟩)
    obtain ⟨value, hvalue⟩ := (hread _ (hmembers _ hmember) (isNote_text cell.1)).2
    exact isFinite_of_readCell hvalue

/-! ### Documents -/

/-- The document of a workbook with nothing in it that is refused is read for the same sheets with
the same cells. -/
theorem ofJson_toJson_reading {book : Workbook} (h : book.Orderly)
    (hsheets : ∀ sheet ∈ book.sheets, WrittenReadably sheet) :
    ofJson (toJson book) = .ok ⟨book.sheets.map reading⟩ :=
  ofJson_toJson_map h.names (fun _ => rfl) fun sheet hsheet =>
    readSheet_settled_reading (h.covered sheet hsheet) (hsheets sheet hsheet).2
      (hsheets sheet hsheet).1

/-- If the document of a workbook is read, so is each of its sheets. -/
theorem writtenReadably_of_ofJson {book read : Workbook} (hnames : book.names.Nodup)
    (h : ofJson (toJson book) = .ok read) : ∀ sheet ∈ book.sheets, WrittenReadably sheet := by
  intro sheet hsheet
  rw [ofJson, (get?_toJson book).1, Option.bind_some, Json.items?] at h
  have hname : Json.string sheet.name ∈ book.names.map Json.string :=
    List.mem_map_of_mem (List.mem_map_of_mem hsheet)
  obtain ⟨before, after, hstep⟩ := Except.exists_of_foldlM_eq_ok h hname
  rw [readNamed_toJson hnames before hsheet] at hstep
  obtain ⟨found, hfound, -⟩ := Except.map_eq_ok_iff.1 hstep
  exact writtenReadably_of_readSheet hfound

/-- The document of a workbook is read if nothing is in it that is refused, and not otherwise. -/
theorem ofJson_toJson_eq_ok_iff {book : Workbook} (h : book.Orderly) :
    (∃ read, ofJson (toJson book) = .ok read) ↔
      ∀ sheet ∈ book.sheets, WrittenReadably sheet := by
  constructor
  · rintro ⟨read, hread⟩
    exact writtenReadably_of_ofJson h.names hread
  · intro hsheets
    exact ⟨_, ofJson_toJson_reading h hsheets⟩

end JsonFile

end EnsembleDesk
