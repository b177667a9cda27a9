import EnsembleDesk.Proofs.Session.UsedRange
/-!
# The cells of recorded writes

A write is recorded when it changed something: then its cell held a value before or holds one after,
and lies within the used range of its sheet. Used ranges shrink only when lines are moved, and then
the record is emptied. So in every reachable editor the cells of the recorded writes lie within the
used ranges (`Editor.Reachable.recorded`), and taking a write back extends none.
-/

namespace EnsembleDesk

namespace Workbook

/-- A cell lies within the used range of a sheet. -/
def Uses (book : Workbook) (name : String) (a : Address) : Prop :=
  ∃ sheet range, book.sheet? name = some sheet ∧ sheet.used = some range ∧ a ∈ range

/-- What shrinks no used range leaves the cells within it. -/
theorem Uses.update {book : Workbook} {name : String} {a : Address} (h : book.Uses name a)
    {f : Worksheet → Worksheet} (hname : ∀ sheet, (f sheet).name = sheet.name)
    (hf : ∀ sheet : Worksheet, sheet.UsedWithin (f sheet)) (other : String) :
    (book.update other f).Uses name a := by
  obtain ⟨sheet, range, hsheet, hrange, ha⟩ := h
  rw [Uses, Workbook.sheet?_update hname, hsheet]
  split
  · obtain ⟨wider, hwider, hsub⟩ := hf sheet range hrange
    exact ⟨f sheet, wider, rfl, hwider, hsub a ha⟩
  · exact ⟨sheet, range, rfl, hrange, ha⟩

/-- A cell in which something was changed lies within the used range. -/
theorem uses_put {book : Workbook} (h : book.Orderly) {name : String} {sheet : Worksheet}
    (hsheet : book.sheet? name = some sheet) {a : Address} {value : Option CellValue}
    (hchanges : CellValue.sameCell (sheet.value a) value = false) :
    (book.update name (·.put a value)).Uses name a := by
  have hput := Workbook.sheet?_update (fun sheet => sheet.name_put a value) book name name
  rw [if_pos rfl, hsheet, Option.map_some] at hput
  cases value with
  | some value =>
    -- the value that is written is covered
    have hcovered := (h.covered sheet (mem_of_sheet? hsheet)).set a value
    obtain ⟨range, hrange, ha⟩ := hcovered a value (by rw [Worksheet.value_set, if_pos rfl])
    exact ⟨_, range, hput, hrange, ha⟩
  | none =>
    -- what is cleared was covered before
    cases hold : sheet.value a with
    | none =>
      rw [hold] at hchanges
      cases hchanges
    | some old =>
      obtain ⟨range, hrange, ha⟩ := h.covered sheet (mem_of_sheet? hsheet) a old hold
      exact ⟨_, range, hput, hrange, ha⟩

end Workbook

namespace Content

variable {content : Content}

/-- The workbook is orderly, and the cells of the recorded writes lie within the used ranges. -/
structure Recorded (content : Content) : Prop where
  /-- The used ranges hold the cells. -/
  orderly : content.book.Orderly
  /-- The cells of the recorded writes lie within the used ranges. -/
  edits : ∀ edit ∈ content.undo.edits, content.book.Uses edit.sheet edit.cell

theorem Recorded.fresh {book : Workbook} (h : book.Orderly) (active : String) :
    (Content.fresh book active).Recorded :=
  ⟨h, fun _ hedit => absurd hedit List.not_mem_nil⟩

/-- A change that shrinks no used range and records nothing. -/
theorem Recorded.update (h : content.Recorded) (change : Change) {name : String}
    {f : Worksheet → Worksheet} (hbook : (content.apply change).book = content.book.update name f)
    (hname : ∀ sheet, (f sheet).name = sheet.name)
    (hf : ∀ sheet : Worksheet, sheet.UsedWithin (f sheet))
    (hedits : ∀ edit ∈ (content.apply change).undo.edits, edit ∈ content.undo.edits) :
    (content.apply change).Recorded := by
  refine ⟨orderly_apply h.orderly change, fun edit hedit => ?_⟩
  rw [hbook]
  exact (h.edits edit (hedits edit hedit)).update hname hf name

theorem Recorded.write (hsound : content.Sound) (h : content.Recorded) (a : Address)
    (value : Option CellValue) : (content.apply (.write a value)).Recorded := by
  refine ⟨orderly_apply h.orderly (.write a value), fun edit hedit => ?_⟩
  have hkept : ∀ edit ∈ content.undo.edits,
      (content.apply (.write a value)).book.Uses edit.sheet edit.cell := fun edit hedit =>
    (h.edits edit hedit).update (fun sheet => sheet.name_put a value)
      (fun sheet => .put sheet a value) content.active
  change edit ∈ (content.undo.push (content.edit a value)).edits at hedit
  rw [UndoLog.push] at hedit
  split at hedit
  · rename_i hchanges
    rcases List.mem_cons.1 (List.mem_of_mem_take hedit) with rfl | hedit
    · obtain ⟨sheet, hsheet⟩ := Workbook.mem_names_iff.1 hsound.active
      rw [CellEdit.changes, Bool.not_eq_true', Content.edit, Workbook.cell?_eq_value hsheet]
        at hchanges
      exact Workbook.uses_put h.orderly hsheet hchanges
    · exact hkept edit hedit
  · exact hkept edit hedit

/-- An elementary change keeps the cells of the recorded writes within the used ranges. -/
theorem Recorded.apply (hsound : content.Sound) (h : content.Recorded) (change : Change) :
    (content.apply change).Recorded := by
  cases change with
  | write a value => exact h.write hsound a value
  | cover range =>
    exact h.update _ rfl (fun sheet => sheet.name_cover range) (fun sheet => .cover sheet range)
      fun _ hedit => hedit
  -- lines are moved together with what was recorded, which is forgotten
  | insertLine axis i => exact ⟨orderly_apply h.orderly _, fun _ hedit => nomatch hedit⟩
  | deleteLine axis i => exact ⟨orderly_apply h.orderly _, fun _ hedit => nomatch hedit⟩
  | resize axis i size =>
    exact h.update _ rfl (fun sheet => sheet.name_mapSizes axis _)
      (fun sheet => .of_used (sheet.used_mapSizes axis _)) fun _ hedit => hedit
  | present name view =>
    by_cases hname : name ∈ content.book.names
    · have hpresent := content.apply_present hname view
      exact h.update _ (congrArg Content.book hpresent) (fun sheet => name_resized sheet view)
        (fun _ => .of_used rfl) fun _ hedit => by rwa [hpresent] at hedit
    · rw [Content.apply, if_neg hname]
      exact h
  | takeBack =>
    cases hedits : content.undo.edits with
    | nil => rwa [Content.apply, UndoLog.pop, hedits]
    | cons edit edits =>
      have htaken : content.apply .takeBack = { content with
          book := content.book.takeBack edit, undo := { content.undo with edits } } := by
        rw [Content.apply, UndoLog.pop, hedits]
      refine h.update _ (congrArg Content.book htaken)
        (fun sheet => sheet.name_put edit.cell edit.old)
        (fun sheet => .put sheet edit.cell edit.old) fun other hother => ?_
      rw [htaken] at hother
      exact hedits ▸ List.mem_cons_of_mem _ hother
  | save => exact ⟨h.orderly, h.edits⟩

end Content

/-- In a reachable editor, the cells of the recorded writes lie within the used ranges. -/
theorem Editor.Reachable.recorded {editor : Editor} (reached : Reachable editor) {file : OpenFile}
    (hfile : editor.file = some file) : file.content.Recorded :=
  (reached.content_induction (P := Content.Recorded)
    (fun _ _ _ _ _ hbook _ => .fresh ((orderly_of_readBook hbook).opened _) _)
    (fun _ change hsound h => h.apply hsound change) hfile).2

end EnsembleDesk
