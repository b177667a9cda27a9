import EnsembleDesk.Book.Format
import EnsembleDesk.Proofs.Result
import EnsembleDesk.Proofs.Sheet.UsedRange
/-!
# Workbooks that are read

Whatever the bytes of a file are: if they can be read at all, then the sheets of the workbook have
different names, and the used range of each holds all its cells (`BookFormat.orderly_of_read`). If
they cannot be read, the reason is never that a sheet is missed in the workbook
(`BookFormat.missesSheet_of_read`): a sheet that a file names without having it is an error of its
own.
-/

namespace EnsembleDesk

/-- Whether the error is that a workbook has no sheet of some name. -/
def GridError.missesSheet : GridError → Bool
  | .unknownSheet _ => true
  | _ => false

namespace Workbook

/-- The sheets have different names, and their used ranges hold their cells. -/
structure Orderly (book : Workbook) : Prop where
  /-- No two sheets have the same name. -/
  names : book.names.Nodup
  /-- The used range of a sheet holds its cells. -/
  covered : ∀ sheet ∈ book.sheets, sheet.Covered

/-- A sheet that is pushed adds its name unless there is one of that name. -/
theorem names_push (book : Workbook) (sheet : Worksheet) :
    (book.push sheet).names =
      if sheet.name ∈ book.names then book.names else book.names ++ [sheet.name] := by
  rw [push]
  by_cases hname : sheet.name ∈ book.names
  · rw [if_pos (List.contains_iff_mem.2 hname), if_pos hname, names, names, List.map_map]
    refine List.map_congr_left fun other _ => ?_
    rw [Function.comp_apply]
    split
    · rename_i heq
      exact heq.symm
    · rfl
  · rw [if_neg (mt List.contains_iff_mem.1 hname), if_neg hname, names, names, List.map_append]
    rfl

/-- The sheets after a push are the new one and some of the old ones. -/
theorem mem_sheets_push {book : Workbook} {sheet other : Worksheet}
    (h : other ∈ (book.push sheet).sheets) : other = sheet ∨ other ∈ book.sheets := by
  rw [push] at h
  split at h
  · obtain ⟨before, hbefore, rfl⟩ := List.mem_map.1 h
    split
    · exact .inl rfl
    · exact .inr hbefore
  · rcases List.mem_append.1 h with h | h
    · exact .inr h
    · exact .inl (List.mem_singleton.1 h)

namespace Orderly

/-- A workbook without sheets is orderly. -/
theorem empty : Workbook.empty.Orderly :=
  ⟨List.nodup_nil, fun _ h => absurd h List.not_mem_nil⟩

/-- A workbook stays orderly when a covered sheet is pushed. -/
theorem push {book : Workbook} (h : book.Orderly) {sheet : Worksheet} (hsheet : sheet.Covered) :
    (book.push sheet).Orderly := by
  refine ⟨?_, fun other hmem => ?_⟩
  · rw [names_push]
    split
    · exact h.names
    · rename_i hname
      refine List.nodup_append.2 ⟨h.names, List.pairwise_singleton _ _, ?_⟩
      -- the name that is added is not among those before it
      intro name hmem other hother heq
      rw [List.mem_singleton.1 hother] at heq
      exact hname (heq ▸ hmem)
  · rcases mem_sheets_push hmem with rfl | hmem
    · exact hsheet
    · exact h.covered other hmem

/-- A new workbook is orderly. -/
theorem blank : Workbook.blank.Orderly := empty.push (.empty defaultSheetName)

/-- A change of a sheet that keeps its name, and keeps its cells covered. -/
theorem update {book : Workbook} (h : book.Orderly) {f : Worksheet → Worksheet}
    (hname : ∀ sheet, (f sheet).name = sheet.name) (hf : ∀ sheet, sheet.Covered → (f sheet).Covered)
    (name : String) : (book.update name f).Orderly :=
  ⟨names_update hname book name ▸ h.names,
    forall_mem_update (fun _ hsheet => hsheet) hf h.covered name⟩

end Orderly

end Workbook

namespace JsonFile

/-- Cells that are read are covered. -/
theorem covered_of_readCells {sheet after : Worksheet} {members : List (String × Json)}
    (h : readCells sheet members = .ok after) (hsheet : sheet.Covered) : after.Covered := by
  refine Except.foldlM_keeps (fun before member _ hbefore next hnext => ?_) hsheet h
  obtain ⟨key, cell⟩ := member
  dsimp only at hnext
  split at hnext
  · cases hnext
    exact hbefore
  · obtain ⟨a, -, hnext⟩ := Except.bind_eq_ok_iff.1 hnext
    obtain ⟨value, -, hnext⟩ := Except.bind_eq_ok_iff.1 hnext
    cases hnext
    exact hbefore.set a value

/-- A sheet that is read is covered. -/
theorem covered_of_readSheet {name : String} {members : List (String × Json)} {sheet : Worksheet}
    (h : readSheet name members = .ok sheet) : sheet.Covered := by
  obtain ⟨cells, hcells, h⟩ := Except.bind_eq_ok_iff.1 h
  have hcovered := covered_of_readCells hcells (.empty name)
  dsimp only at h
  split at h
  · obtain ⟨ranged, hranged, h⟩ := Except.bind_eq_ok_iff.1 h
    obtain ⟨range, -, rfl⟩ := Except.map_eq_ok_iff.1 hranged
    cases h
    exact (hcovered.cover range).of_cells rfl rfl
  · cases h
    exact hcovered.of_cells rfl rfl

/-- A workbook that is read from a document is orderly. -/
theorem orderly_of_ofJson {document : Json} {book : Workbook} (h : ofJson document = .ok book) :
    book.Orderly := by
  rw [ofJson] at h
  split at h
  · cases h
  · refine Except.foldlM_keeps (fun before name _ hbefore next hnext => ?_) .empty h
    rw [readNamed] at hnext
    split at hnext
    · cases hnext
    · split at hnext
      · cases hnext
      · obtain ⟨sheet, hsheet, rfl⟩ := Except.map_eq_ok_iff.1 hnext
        exact hbefore.push (covered_of_readSheet hsheet)

/-- A workbook that is read from a JSON file is orderly. -/
theorem orderly_of_read {bytes : List UInt8} {book : Workbook} (h : read bytes = .ok book) :
    book.Orderly := by
  rw [read] at h
  split at h
  · cases h
  · exact orderly_of_ofJson h

/-! ### Errors -/

/-- A value of the right type is only refused if it is a number that is not finite. -/
theorem exists_of_readValue?_eq_error {type : CellType} {value : Json} {error : GridError}
    (h : readValue? type value = some (.error error)) : ∃ x, error = .notFinite x := by
  cases type with
  | number =>
    obtain ⟨x, -, h⟩ := Option.map_eq_some_iff.1 h
    rw [CellValue.ofNumber] at h
    split at h
    · cases h
    · cases h
      exact ⟨x, rfl⟩
  | _ =>
    obtain ⟨_, -, h⟩ := Option.map_eq_some_iff.1 h
    cases h

/-- A cell that cannot be read is no missing sheet. -/
theorem missesSheet_of_readCell {key : String} {cell : Json} {error : GridError}
    (h : readCell key cell = .error error) : error.missesSheet = false := by
  simp only [readCell] at h
  split at h
  · cases h
    rfl
  · rename_i type value _
    cases hread : readValue? type value with
    | none =>
      rw [hread] at h
      cases h
      rfl
    | some result =>
      rw [hread, Option.getD_some] at h
      obtain ⟨x, rfl⟩ := exists_of_readValue?_eq_error (h ▸ hread)
      rfl

/-- Cells that cannot be read are no missing sheet. -/
theorem missesSheet_of_readCells {sheet : Worksheet} {members : List (String × Json)}
    {error : GridError} (h : readCells sheet members = .error error) :
    error.missesSheet = false := by
  obtain ⟨before, ⟨key, cell⟩, -, h⟩ := Except.exists_of_foldlM_eq_error h
  dsimp only at h
  split at h
  · cases h
  · rcases Except.bind_eq_error_iff.1 h with h | ⟨a, -, h⟩
    · rw [readAddress] at h
      split at h
      · cases h
      · cases h
        rfl
    · rcases Except.bind_eq_error_iff.1 h with h | ⟨value, -, h⟩
      · exact missesSheet_of_readCell h
      · cases h

/-- A sheet that cannot be read is no sheet that is asked for and missing. -/
theorem missesSheet_of_readSheet {name : String} {members : List (String × Json)}
    {error : GridError} (h : readSheet name members = .error error) :
    error.missesSheet = false := by
  rcases Except.bind_eq_error_iff.1 h with h | ⟨cells, -, h⟩
  · exact missesSheet_of_readCells h
  · dsimp only at h
    split at h
    · rcases Except.bind_eq_error_iff.1 h with h | ⟨ranged, -, h⟩
      · rw [Except.map_eq_error_iff, readRange] at h
        split at h
        · cases h
        · cases h
          rfl
      · cases h
    · cases h

/-- A document that cannot be read is no missing sheet. -/
theorem missesSheet_of_ofJson {document : Json} {error : GridError}
    (h : ofJson document = .error error) : error.missesSheet = false := by
  rw [ofJson] at h
  split at h
  · cases h
    rfl
  · obtain ⟨book, name, -, h⟩ := Except.exists_of_foldlM_eq_error h
    rw [readNamed] at h
    split at h
    · cases h
      rfl
    · split at h
      · cases h
        rfl
      · exact missesSheet_of_readSheet (Except.map_eq_error_iff.1 h)

/-- A JSON file that cannot be read is no missing sheet. -/
theorem missesSheet_of_read {bytes : List UInt8} {error : GridError}
    (h : read bytes = .error error) : error.missesSheet = false := by
  rw [read] at h
  split at h
  · cases h
    rfl
  · exact missesSheet_of_ofJson h

end JsonFile

namespace DelimitedFile

/-- A row of fields that is put on a sheet is covered. -/
theorem covered_putFields {sheet : Worksheet} (h : sheet.Covered) (row : Index)
    (fields : List String) : (putFields sheet row fields).Covered := by
  refine List.foldlRecOn _ _ h fun before hbefore field _ => ?_
  dsimp only
  split
  · exact hbefore.set _ _
  · exact hbefore

/-- A sheet of rows of fields is covered. -/
theorem covered_sheetOf (rows : List (List String)) : (sheetOf rows).Covered :=
  List.foldlRecOn _ _ (.empty Workbook.defaultSheetName) fun _ hbefore _ _ =>
    covered_putFields hbefore _ _

/-- A workbook that is read from a delimited file is orderly. -/
theorem orderly_of_read {delimiter : UInt8} {bytes : List UInt8} {book : Workbook}
    (h : read delimiter bytes = .ok book) : book.Orderly := by
  rw [read] at h
  split at h
  · cases h
    exact Workbook.Orderly.empty.push (covered_sheetOf _)
  · cases h

end DelimitedFile

/-- A workbook that was read from a file is orderly. -/
theorem BookFormat.orderly_of_read {format : BookFormat} {bytes : List UInt8} {book : Workbook}
    (h : format.read bytes = .ok book) : book.Orderly := by
  cases format with
  | json => exact JsonFile.orderly_of_read h
  | delimited delimiter => exact DelimitedFile.orderly_of_read h

/-- A file is not refused for a sheet that is missed in the workbook. -/
theorem BookFormat.missesSheet_of_read {format : BookFormat} {bytes : List UInt8}
    {error : GridError} (h : format.read bytes = .error error) : error.missesSheet = false := by
  cases format with
  | json => exact JsonFile.missesSheet_of_read h
  | delimited delimiter =>
    rw [read, DelimitedFile.read] at h
    split at h
    · cases h
    · cases h
      rfl

end EnsembleDesk
