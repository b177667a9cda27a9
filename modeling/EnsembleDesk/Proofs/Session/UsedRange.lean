import EnsembleDesk.Proofs.Book.Reading
import EnsembleDesk.Proofs.Session.Opening
/-!
# Used ranges in the editor

Every elementary change keeps the workbook orderly, and so the used range of every sheet holds its
cells in every reachable editor. A change that inserts and deletes no lines does not shrink the used
range of any sheet (`Content.usedWithin_apply`).

## Main results

* `Editor.Reachable.orderly`: the sheets have different names, and their used ranges hold their
  cells;
* `Editor.used_holds_cells`: the used ranges hold the cells, and grow until lines are moved.
-/

namespace EnsembleDesk

namespace Workbook

/-- The sheets of another workbook, of the same names, have used ranges as wide as these. -/
def UsedWithin (book other : Workbook) : Prop :=
  ∀ sheet ∈ book.sheets, ∃ later ∈ other.sheets, later.name = sheet.name ∧ sheet.UsedWithin later

namespace UsedWithin

theorem refl (book : Workbook) : book.UsedWithin book :=
  fun sheet h => ⟨sheet, h, rfl, .refl sheet⟩

theorem trans {first second third : Workbook} (h : first.UsedWithin second)
    (h' : second.UsedWithin third) : first.UsedWithin third := by
  intro sheet hsheet
  obtain ⟨later, hlater, hname, hwithin⟩ := h sheet hsheet
  obtain ⟨latest, hlatest, hname', hwithin'⟩ := h' later hlater
  exact ⟨latest, hlatest, hname'.trans hname, hwithin.trans hwithin'⟩

/-- A change of a sheet that keeps its name and does not shrink its used range. -/
theorem update {f : Worksheet → Worksheet} (hname : ∀ sheet, (f sheet).name = sheet.name)
    (hf : ∀ sheet : Worksheet, sheet.UsedWithin (f sheet)) (book : Workbook) (name : String) :
    book.UsedWithin (book.update name f) := by
  intro sheet hsheet
  refine ⟨_, List.mem_map.2 ⟨sheet, hsheet, rfl⟩, ?_⟩
  split
  · exact ⟨hname sheet, hf sheet⟩
  · exact ⟨rfl, .refl sheet⟩

end UsedWithin

/-- A workbook stays orderly when it is opened. -/
theorem Orderly.opened {book : Workbook} (h : book.Orderly) (options : GridOptions) :
    (book.opened options).Orderly := by
  have hopen : (if book.sheets.isEmpty then Workbook.blank else book).Orderly := by
    split
    · exact .blank
    · exact h
  refine ⟨names_opened book options ▸ hopen.names, fun sheet hmem => ?_⟩
  obtain ⟨before, hbefore, rfl⟩ := List.mem_map.1 hmem
  exact (hopen.covered before hbefore).of_cells rfl rfl

end Workbook

namespace Content

variable {content : Content}

/-- An elementary change keeps the workbook orderly. -/
theorem orderly_apply (h : content.book.Orderly) (change : Change) :
    (content.apply change).book.Orderly := by
  cases change with
  | write a value =>
    exact h.update (fun sheet => Worksheet.name_put sheet a value) (fun _ h => h.put a value) _
  | cover range =>
    exact h.update (fun sheet => Worksheet.name_cover sheet range) (fun _ h => h.cover range) _
  | insertLine axis i =>
    exact h.update (fun sheet => Worksheet.name_insertLine sheet axis i)
      (fun _ h => h.insertLine axis i) _
  | deleteLine axis i =>
    exact h.update (fun sheet => Worksheet.name_deleteLine sheet axis i)
      (fun _ h => h.deleteLine axis i) _
  | resize axis i size =>
    exact h.update (fun sheet => Worksheet.name_mapSizes sheet axis _)
      (fun sheet h => h.of_cells (Worksheet.cells_mapSizes sheet axis _)
        (Worksheet.used_mapSizes sheet axis _)) _
  | present name view =>
    rw [apply]
    split
    · exact h.update (fun sheet => name_resized sheet view) (fun _ h => h.of_cells rfl rfl) name
    · exact h
  | takeBack =>
    -- an undo writes the old value back, and clearing leaves the used range as it is
    rw [apply]
    split
    · exact h
    · rename_i edit undo _
      exact h.update (fun sheet => Worksheet.name_put sheet edit.cell edit.old)
        (fun _ h => h.put edit.cell edit.old) edit.sheet
  | save => exact h

/-- A change that moves no lines does not shrink used ranges. -/
theorem usedWithin_apply (content : Content) {change : Change}
    (hmoves : change.movesLines = false) :
    content.book.UsedWithin (content.apply change).book := by
  cases change with
  | write a value =>
    exact .update (fun sheet => Worksheet.name_put sheet a value)
      (fun sheet => .put sheet a value) _ _
  | cover range =>
    exact .update (fun sheet => Worksheet.name_cover sheet range)
      (fun sheet => .cover sheet range) _ _
  | insertLine axis i => cases hmoves
  | deleteLine axis i => cases hmoves
  | resize axis i size =>
    exact .update (fun sheet => Worksheet.name_mapSizes sheet axis _)
      (fun sheet => .of_used (Worksheet.used_mapSizes sheet axis _)) _ _
  | present name view =>
    rw [apply]
    split
    · exact .update (fun sheet => name_resized sheet view) (fun _ => .of_used rfl) _ _
    · exact .refl _
  -- an undo only writes or clears a cell, too
  | takeBack =>
    rw [apply]
    split
    · exact .refl _
    · rename_i edit undo _
      exact .update (fun sheet => Worksheet.name_put sheet edit.cell edit.old)
        (fun sheet => .put sheet edit.cell edit.old) _ _
  | save => exact .refl _

/-- Without moved lines, no used range shrinks. -/
theorem usedWithin_applyAll (content : Content) {changes : List Change}
    (hmoves : ∀ change ∈ changes, change.movesLines = false) :
    content.book.UsedWithin (content.applyAll changes).book := by
  induction changes generalizing content with
  | nil => exact .refl _
  | cons change changes ih =>
    have hfirst := content.usedWithin_apply (hmoves change List.mem_cons_self)
    exact hfirst.trans (ih _ fun other hmem => hmoves other (List.mem_cons_of_mem _ hmem))

end Content

namespace Editor

variable {editor : Editor} {file : OpenFile}

/-- A workbook that is read, or begun when there is no file, is orderly. -/
theorem orderly_of_readBook {path : String} {book : Workbook}
    (h : editor.readBook path = .ok book) : book.Orderly := by
  rw [readBook] at h
  split at h
  · exact BookFormat.orderly_of_read h
  · cases h
    exact .blank

/-- The workbook of an open file is orderly. -/
theorem Reachable.orderly (reached : Reachable editor) (hfile : editor.file = some file) :
    file.book.Orderly :=
  (reached.content_induction (P := fun content => content.book.Orderly)
    (fun _ _ _ _ _ hbook _ => (orderly_of_readBook hbook).opened _)
    (fun _ change _ h => Content.orderly_apply h change) hfile).2

/-- The used range of every sheet holds its cells; and as long as no line is inserted or deleted,
and no file is opened or closed, it does not shrink, whatever else happens. -/
theorem used_holds_cells (reached : Reachable editor) (hfile : editor.file = some file) :
    (∀ sheet ∈ file.book.sheets, ∀ a v, sheet.value a = some v →
      ∃ range, sheet.used = some range ∧ range.start.row ≤ range.stop.row ∧
        range.start.column ≤ range.stop.column ∧ a ∈ range) ∧
      ∀ events : List Event,
        (∀ operation, .perform operation ∈ events →
          operation.replacesFile = false ∧ operation.movesLines = false) →
        ∃ after, (editor.through events).file = some after ∧
          ∀ sheet ∈ file.book.sheets, ∃ later ∈ after.book.sheets, later.name = sheet.name ∧
            ∀ range, sheet.used = some range →
              ∃ wider, later.used = some wider ∧ ∀ a ∈ range, a ∈ wider := by
  refine ⟨fun sheet hsheet a v hv => ?_, fun events hevents => ?_⟩
  · obtain ⟨range, hrange, hmem⟩ := (reached.orderly hfile).covered sheet hsheet a v hv
    exact ⟨range, hrange, range.rows.start_le_stop, range.columns.start_le_stop, hmem⟩
  -- the run is a list of elementary changes, none of which moves lines
  · obtain ⟨after, hafter, hcontent⟩ := content_through hfile (reached.sound hfile)
      fun operation hmem => (hevents operation hmem).1
    refine ⟨after, hafter, ?_⟩
    have hmoves : ∀ change ∈ editor.changesThrough events, change.movesLines = false := by
      intro change hmem
      obtain ⟨operation, hoperation, hcomes⟩ := comesOf_of_mem_changesThrough hmem
      exact hcomes.movesLines (hevents operation hoperation).2
    have hwithin := file.content.usedWithin_applyAll hmoves
    rw [← hcontent] at hwithin
    exact hwithin

/-- A cell is written. -/
def oneWrite : List Event := [.perform (.write ⟨3, 2⟩ (some (.boolean true)))]

/-- When the write is undone, the used range stays. -/
theorem used_holds_undone_cell :
    ∃ file after, (newFile.through oneWrite).file = some file ∧
      ((newFile.through oneWrite).through [.perform (.command .undo)]).file = some after ∧
      (∀ sheet ∈ file.book.sheets, ∀ a v, sheet.value a = some v →
        ∃ range, sheet.used = some range ∧ a ∈ range) ∧
      ∀ sheet ∈ file.book.sheets, ∃ later ∈ after.book.sheets, later.name = sheet.name ∧
        ∀ range, sheet.used = some range →
          ∃ wider, later.used = some wider ∧ ∀ a ∈ range, a ∈ wider := by
  have hopen : (newFile.through oneWrite).file.isSome = true := by decide +kernel
  have hfile := (Option.some_get hopen).symm
  obtain ⟨hcells, hgrows⟩ := used_holds_cells (newFile_reachable.through oneWrite) hfile
  obtain ⟨after, hafter, hwithin⟩ := hgrows [.perform (.command .undo)] fun operation hmem => by
    cases List.mem_singleton.1 hmem
    exact ⟨rfl, rfl⟩
  refine ⟨_, after, hfile, hafter, fun sheet hsheet a v hv => ?_, hwithin⟩
  obtain ⟨range, hrange, -, -, hmem⟩ := hcells sheet hsheet a v hv
  exact ⟨range, hrange, hmem⟩

end Editor

end EnsembleDesk
