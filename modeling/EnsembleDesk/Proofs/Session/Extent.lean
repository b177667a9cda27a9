import EnsembleDesk.Proofs.Session.Parts
import EnsembleDesk.Proofs.Session.RecordedCells
import EnsembleDesk.Proofs.Sheet.Extents
/-!
# The extent and the used range

Only lines within the extent can be scrolled to, so the extent should hold the used range of the
sheet that is shown. Showing a sheet sees to it, and writing, pasting and selecting bring what they
reach into the extent. Inserting a line moves the end of the used range and leaves the extent as it
is. `OpenFile.ShownWithin` allows for that: the used range may go beyond the extent by one line for
each line that was inserted since the sheet was shown.

## Main results

* `Editor.used_within_extent`: the bound, and with it the extent as long as no line is inserted;
* `Editor.used_range_may_leave_extent`: a line that is inserted may push a cell out of the extent.
-/

namespace EnsembleDesk

/-- A cell that is written within the used range does not change it. -/
theorem Worksheet.used_put_of_mem {sheet : Worksheet} {range : CellRange}
    (hused : sheet.used = some range) {a : Address} (ha : a ∈ range) (value : Option CellValue) :
    (sheet.put a value).used = sheet.used := by
  cases value with
  | none => rfl
  | some value =>
    simp [Worksheet.put, Worksheet.set, Worksheet.cover, hused, CellRange.union_single_of_mem ha]

/-- The last line of a rectangle that was pasted comes into the extent with its last cell. -/
theorem CellRange.next_stop_along_spanning_le (anchor : Address) {rows columns : Int}
    (hrows : 0 ≤ rows) (hcolumns : 0 ≤ columns) (axis : Axis) :
    ((spanning anchor (anchor.offset rows columns)).along axis).stop.next.val ≤
      ((anchor.offset rows columns).along axis).next.val := by
  -- the last line of all is not reached by an offset, but there is none after it
  have hlater : ∀ (i : Index) (delta : Int), 0 ≤ delta →
      (i.later (i.offset delta)).next.val ≤ (i.offset delta).next.val := by
    intro i delta hdelta
    have hi := i.isLt
    rw [Index.val_next, Index.val_next, Index.val_later, Index.offset, Index.val_capped]
    omega
  rw [along_spanning]
  cases axis with
  | row => exact hlater _ _ hrows
  | column => exact hlater _ _ hcolumns

/-! ### Lines that are inserted -/

/-- The number of lines that an event inserts along an axis. -/
def Editor.Event.insertions (along : Axis) : Event → Nat
  | .perform (.command (.insertLine axis _)) => if along = axis then 1 else 0
  | _ => 0

/-- The number of lines that events insert along an axis. -/
def Editor.insertions (along : Axis) : List Event → Nat
  | [] => 0
  | event :: events => event.insertions along + insertions along events

namespace OpenFile

variable {file after : OpenFile} {extra : Axis → Nat}

/-- The sheet that is shown uses at most some lines beyond the extent. -/
def ShownWithin (file : OpenFile) (extra : Axis → Nat) : Prop :=
  ∀ sheet, file.book.sheet? file.active = some sheet →
    sheet.UsedBelow fun axis => (file.extent.along axis).val + extra axis

namespace ShownWithin

/-- A sheet that uses at most some lines beyond the extent uses at most more of them. -/
theorem mono (h : file.ShownWithin extra) {more : Axis → Nat}
    (hle : ∀ axis, extra axis ≤ more axis) : file.ShownWithin more :=
  fun sheet hsheet => (h sheet hsheet).mono fun axis => Nat.add_le_add_left (hle axis) _

/-- A change of the extent, in which it does not shrink. -/
theorem of_extent (h : file.ShownWithin extra) (hbook : after.book = file.book)
    (hactive : after.active = file.active)
    (hle : ∀ axis, file.extent.along axis ≤ after.extent.along axis) : after.ShownWithin extra := by
  intro sheet hsheet
  rw [hbook, hactive] at hsheet
  exact (h sheet hsheet).mono fun axis => Nat.add_le_add_right (hle axis) _

/-- A change of the sheet that is shown. -/
theorem updateSheet (h : file.ShownWithin extra) {f : Worksheet → Worksheet}
    (hname : ∀ sheet, (f sheet).name = sheet.name) {limit : Axis → Nat}
    (hf : ∀ sheet : Worksheet,
      sheet.UsedBelow (fun axis => (file.extent.along axis).val + extra axis) →
        (f sheet).UsedBelow limit) :
    ∀ sheet, (file.updateSheet f).book.sheet? file.active = some sheet → sheet.UsedBelow limit := by
  intro sheet hsheet
  rw [OpenFile.updateSheet, Workbook.sheet?_update hname, if_pos rfl] at hsheet
  obtain ⟨before, hbefore, rfl⟩ := Option.map_eq_some_iff.1 hsheet
  exact hf before (h before hbefore)

/-- A change of the sheet that is shown, whose last cell comes into the extent. -/
theorem updateSheet_ensureCell (h : file.ShownWithin extra) {f : Worksheet → Worksheet}
    (hname : ∀ sheet, (f sheet).name = sheet.name) (a : Address)
    (hf : ∀ (sheet : Worksheet) (limit : Axis → Nat), sheet.UsedBelow limit →
      (∀ axis, (a.along axis).next.val ≤ limit axis) → (f sheet).UsedBelow limit) :
    ∀ sheet, (file.updateSheet f).book.sheet? file.active = some sheet →
      sheet.UsedBelow fun axis => ((file.extent.ensureCell a).along axis).val + extra axis := by
  refine h.updateSheet hname fun sheet hsheet => hf sheet _ (hsheet.mono fun axis => ?_)
    fun axis => Nat.le_add_right_of_le (file.extent.next_le_ensureCell a axis)
  exact Nat.add_le_add_right (file.extent.along_le_ensureCell a axis) _

/-- What leaves the sheet and the extent alone leads to no more lines beyond the extent. -/
theorem of_common (hcommon : Common file after) (h : file.ShownWithin extra) :
    after.ShownWithin extra := by
  cases hcommon with
  | write hsheet a value =>
    exact h.updateSheet_ensureCell (fun sheet => sheet.name_put a value) a
      fun sheet limit hsheet ha => hsheet.put value ha
  | capture hsheet => exact h
  | attend selection dragging edit client => exact h
  | reach a => exact h.of_extent rfl rfl (file.extent.along_le_ensureCell a)
  | cover anchor hrows hcolumns =>
    refine h.updateSheet_ensureCell (fun sheet => sheet.name_cover _) _
      fun sheet limit hsheet ha => hsheet.cover fun axis => ?_
    exact Nat.le_trans (CellRange.next_stop_along_spanning_le anchor hrows hcolumns axis) (ha axis)

/-- Showing a sheet brings its used range into the extent. -/
theorem of_restore {options : GridOptions} {name : String}
    (h : file.restore options name = .ok after) : after.ShownWithin fun _ => 0 := by
  obtain ⟨sheet, hsheet, h⟩ := Except.bind_eq_ok_iff.1 h
  cases h
  intro shown hshown range hrange axis
  -- resizing its lines leaves the sheet the used range that the extent was made for
  obtain ⟨before, hbefore, rfl⟩ := Option.map_eq_some_iff.1
    (((Workbook.sheet?_update (fun sheet => Content.name_resized sheet _) _ _ _).trans
      (if_pos rfl)).symm.trans hshown)
  obtain rfl : sheet = before := Except.ok.inj (hsheet.symm.trans (Workbook.sheet_eq_ok hbefore))
  have hused : (resized sheet ((file.view.sheet? name).getD { sheet := name })).used =
      some range := hrange
  simp only [initialExtent, hused]
  refine Nat.le_trans (Nat.le_of_eq ?_) (Extent.next_le_ensureCell _ range.stop axis)
  cases axis <;> rfl

/-- A write that is taken back extends no used range. -/
theorem takeBack (hrecorded : file.content.Recorded) {edit : CellEdit} {edits : List CellEdit}
    (hedits : file.undo.edits = edit :: edits) (h : file.ShownWithin extra) :
    ∀ sheet, (file.book.takeBack edit).sheet? file.active = some sheet →
      sheet.UsedBelow fun axis => (file.extent.along axis).val + extra axis := by
  intro sheet hsheet
  have hput := Workbook.sheet?_update (fun sheet => sheet.name_put edit.cell edit.old)
    file.book edit.sheet file.active
  rw [
    show file.book.update edit.sheet (·.put edit.cell edit.old) = file.book.takeBack edit from rfl,
    hsheet] at hput
  split at hput
  · rename_i hactive
    -- the cell that was written lies within the used range already
    obtain ⟨before, range, hbefore, hrange, ha⟩ :=
      hrecorded.edits edit (hedits ▸ List.mem_cons_self)
    have hbefore : file.book.sheet? file.active = some before := hactive ▸ hbefore
    rw [hbefore] at hput
    obtain rfl := Option.some.inj hput
    exact (h before hbefore).of_used (Worksheet.used_put_of_mem hrange ha edit.old)
  · exact h sheet hput.symm

/-- An operation leads to at most as many more lines beyond the extent as it inserts. -/
theorem of_own {options : GridOptions} {operation : Operation} (hrecorded : file.content.Recorded)
    (hown : Own options operation file after) (h : file.ShownWithin extra) :
    after.ShownWithin fun axis =>
      extra axis + (Editor.Event.perform operation).insertions axis := by
  cases hown with
  | insertLine _ axis i =>
    refine h.updateSheet (fun sheet => sheet.name_insertLine axis i) fun sheet hsheet => ?_
    exact (hsheet.insertLine axis i).mono fun along => Nat.le_of_eq (Nat.add_assoc _ _ _)
  | deleteLine _ axis i =>
    exact h.updateSheet (fun sheet => sheet.name_deleteLine axis i)
      fun sheet hsheet => hsheet.deleteLine axis i
  | resize _ axis i size =>
    exact h.updateSheet (fun sheet => sheet.name_mapSizes axis _)
      fun sheet hsheet => hsheet.of_used (sheet.used_mapSizes axis _)
  | takeBack hedits => exact h.takeBack hrecorded hedits
  | echo event hecho => exact h
  | scroll event hecho =>
    exact h.of_extent rfl rfl (file.extent.growsBeyond_afterScroll event).le
  | restore hrestore => exact (of_restore hrestore).mono fun axis => Nat.zero_le _
  | save => exact h

end ShownWithin

/-- A common change makes at most one elementary change to the content. -/
theorem Common.content_eq (h : Common file after) (hsound : file.content.Sound) :
    after.content = file.content ∨ ∃ change, after.content = file.content.apply change := by
  cases h with
  | write hsheet a value =>
    obtain ⟨written, hwrite, hcontent⟩ := write_content hsound a value
    rw [OpenFile.write, hsheet, Except.ok_bind] at hwrite
    cases hwrite
    exact .inr ⟨.write a value, hcontent⟩
  | capture hsheet => exact .inl rfl
  | attend selection dragging edit client => exact .inl rfl
  | reach a => exact .inl rfl
  | cover anchor hrows hcolumns => exact .inr ⟨.cover _, rfl⟩

/-- What the operations have in common keeps the content sound, and the cells of its recorded writes
within the used ranges. -/
theorem Common.recorded (h : Common file after) (hsound : file.content.Sound)
    (hrecorded : file.content.Recorded) : after.content.Sound ∧ after.content.Recorded := by
  obtain hsame | ⟨change, hchange⟩ := h.content_eq hsound
  · rw [hsame]
    exact ⟨hsound, hrecorded⟩
  · rw [hchange]
    exact ⟨hsound.apply change, hrecorded.apply hsound change⟩

end OpenFile

namespace Editor

open OpenFile

variable {editor : Editor} {file after : OpenFile} {extra : Axis → Nat}

/-- An operation that neither opens nor closes a file adds at most the lines that it inserts. -/
theorem shownWithin_perform (reached : Reachable editor) (hfile : editor.file = some file)
    (h : file.ShownWithin extra) {operation : Operation} (hkeeps : operation.replacesFile = false)
    (hafter : (editor.perform operation).2.file = some after) :
    after.ShownWithin fun axis => extra axis + (Event.perform operation).insertions axis := by
  obtain ⟨before, hbecomes, hlast⟩ := makes_perform hfile hkeeps hafter
  obtain ⟨-, hrecorded, hbefore⟩ := hbecomes.keeps
    (P := fun file => file.content.Sound ∧ file.content.Recorded ∧ file.ShownWithin extra)
    (fun _ _ hcommon ⟨hsound, hrecorded, h⟩ =>
      ⟨(hcommon.recorded hsound hrecorded).1, (hcommon.recorded hsound hrecorded).2,
        h.of_common hcommon⟩)
    ⟨reached.sound hfile, reached.recorded hfile, h⟩
  cases hlast with
  | refl => exact hbefore.mono fun axis => Nat.le_add_right _ _
  | single hown => exact hbefore.of_own hrecorded hown

/-- If a file is open, its sheet uses at most some lines beyond the extent. -/
def ShowsWithin (editor : Editor) (extra : Axis → Nat) : Prop :=
  ∀ file, editor.file = some file → file.ShownWithin extra

/-- A file that is opened, or a sheet that is shown, is within its extent. -/
theorem showsWithin_of_leavesSheet {operation : Operation} (hleaves : operation.leavesSheet = true)
    {answer : Answer} (hok : (editor.perform operation).1 = .ok answer) :
    (editor.perform operation).2.ShowsWithin fun _ => 0 := by
  intro shown hshown
  by_cases hclose : operation = .close
  · rw [hclose] at hshown
    cases hshown
  · -- a restored extent spans the used range of the sheet
    obtain ⟨before, name, file, hfile, hrestore⟩ :=
      exists_restore_of_leavesSheet hleaves hclose (by rw [hok]; rfl)
    obtain rfl := Option.some.inj (hfile.symm.trans hshown)
    exact .of_restore hrestore

/-- An event leads to at most as many more lines beyond the extent as it inserts. -/
theorem showsWithin_on (reached : Reachable editor) (h : editor.ShowsWithin extra) (event : Event) :
    (editor.on event).ShowsWithin fun axis => extra axis + event.insertions axis := by
  have hmono : ∀ file : OpenFile, file.ShownWithin extra →
      file.ShownWithin fun axis => extra axis + event.insertions axis :=
    fun file hfile => hfile.mono fun axis => Nat.le_add_right _ _
  intro file hfile
  cases event with
  | provide store clipboard => exact hmono file (h file hfile)
  | perform operation =>
    cases hkeeps : operation.replacesFile with
    | true =>
      -- a file that is opened is within its extent, and one that is refused changes nothing
      cases operation with
      | openFile path view =>
        obtain ⟨_, _, _, _, -, hopened, -⟩ | ⟨error, hrefused⟩ := openFile_cases editor path view
        · have hok : (editor.perform (.openFile path view)).1 = .ok .done :=
            congrArg Prod.fst hopened
          exact (showsWithin_of_leavesSheet rfl hok file hfile).mono fun axis => Nat.zero_le _
        · rw [on, perform, hrefused] at hfile
          exact hmono file (h file hfile)
      | close => cases hfile
      | _ => cases hkeeps
    | false =>
      cases hbefore : editor.file with
      | none =>
        rw [on, file_perform_of_none hbefore hkeeps] at hfile
        cases hfile
      | some before => exact shownWithin_perform reached hbefore (h before hbefore) hkeeps hfile

/-- By induction over a run: events lead to at most as many more lines beyond the extent as they
insert altogether. -/
theorem showsWithin_through (reached : Reachable editor) (h : editor.ShowsWithin extra)
    (events : List Event) :
    (editor.through events).ShowsWithin fun axis => extra axis + insertions axis events := by
  induction events generalizing editor extra with
  | nil => exact h
  | cons event events ih =>
    intro file hfile
    have hrest := ih (reached.through [event]) (showsWithin_on reached h event) file hfile
    exact hrest.mono fun axis => Nat.le_of_eq (by rw [insertions, Nat.add_assoc])

/-- After a file was opened or a sheet was shown, the used range of the sheet that is shown goes
beyond the extent by no more lines than were inserted since, whatever else was done. Closing counts
as well: that gives the bound for a run from the start. -/
theorem used_within_extent (reached : Reachable editor) {operation : Operation}
    (hleaves : operation.leavesSheet = true) {answer : Answer}
    (hok : (editor.perform operation).1 = .ok answer) (events : List Event)
    (hfile : ((editor.perform operation).2.through events).file = some file) :
    ∃ sheet, file.book.sheet? file.active = some sheet ∧
      ∀ range, sheet.used = some range → ∀ axis,
        (range.along axis).stop.next.val ≤
          (file.extent.along axis).val + insertions axis events := by
  have reachedShown := reached.perform operation
  obtain ⟨sheet, hsheet, -⟩ := exists_sheet ((reachedShown.through events).sound hfile)
  have hwithin := showsWithin_through reachedShown (showsWithin_of_leavesSheet hleaves hok) events
    file hfile sheet hsheet
  refine ⟨sheet, hsheet, fun range hrange axis => ?_⟩
  simpa only [Nat.zero_add] using hwithin range hrange axis

/-- A cell of the last row within the extent is written, and a row is inserted above it. -/
def insertedAbove : List Event :=
  [.perform (.write ⟨49, 0⟩ (some (.boolean true))), .perform (.command (.insertLine .row 0))]

/-- What an editor shows after these events in a file that does not exist yet. -/
theorem newFile_insertedAbove :
    ∃ file sheet, (newFile.through insertedAbove).file = some file ∧
      file.book.sheet? file.active = some sheet ∧
      sheet.used = some (.spanning ⟨49, 0⟩ ⟨50, 0⟩) ∧ file.extent.rows = 50 := by
  have hknown : ((newFile.through insertedAbove).file.bind fun file =>
      (file.book.sheet? file.active).map fun sheet => (sheet.used, file.extent.rows)) =
        some (some (.spanning ⟨49, 0⟩ ⟨50, 0⟩), 50) := by
    decide +kernel
  obtain ⟨file, hfile, hshown⟩ := Option.bind_eq_some_iff.1 hknown
  obtain ⟨sheet, hsheet, hfacts⟩ := Option.map_eq_some_iff.1 hshown
  obtain ⟨hused, hrows⟩ := Prod.mk.inj hfacts
  exact ⟨file, sheet, hfile, hsheet, hused, hrows⟩

/-- The used range goes beyond the extent by the one row that was inserted. -/
theorem used_within_extent_insertedAbove :
    ∃ file sheet, ((perform {} (.openFile "plan.csv" none)).2.through insertedAbove).file =
        some file ∧
      file.book.sheet? file.active = some sheet ∧ sheet.used = some (.spanning ⟨49, 0⟩ ⟨50, 0⟩) ∧
      (file.extent.along .row).val = 50 ∧ insertions .row insertedAbove = 1 ∧
      (((CellRange.spanning ⟨49, 0⟩ ⟨50, 0⟩).along .row).stop.next.val ≤
        (file.extent.along .row).val + insertions .row insertedAbove) := by
  obtain ⟨file, sheet, hfile, hsheet, hused, hrows⟩ := newFile_insertedAbove
  have hopened : (perform {} (.openFile "plan.csv" none)).1 = .ok .done := by
    obtain ⟨_, _, _, _, -, hopened, -⟩ | ⟨error, hrefused⟩ := openFile_cases {} "plan.csv" none
    · exact congrArg Prod.fst hopened
    · have hopen : newFile.file.isSome = true := by decide
      rw [newFile, perform, hrefused] at hopen
      cases hopen
  obtain ⟨shown, hshown, hwithin⟩ :=
    used_within_extent (.start {} {} {}) rfl hopened insertedAbove hfile
  obtain rfl := Option.some.inj (hsheet.symm.trans hshown)
  exact ⟨file, sheet, hfile, hsheet, hused, congrArg Fin.val hrows, rfl,
    hwithin _ hused .row⟩

/-- The used range may leave the extent: a line that is inserted pushes a cell out of it. -/
theorem used_range_may_leave_extent :
    ¬ ∀ (editor : Editor) (file : OpenFile) (sheet : Worksheet) (range : CellRange),
      editor.Reachable → editor.file = some file → file.book.sheet? file.active = some sheet →
      sheet.used = some range →
      (∀ axis, (range.along axis).stop.val < Index.unbounded.val - 1) →
      ∀ axis, (range.along axis).stop.val + 1 ≤ (file.extent.along axis).val := by
  intro h
  obtain ⟨file, sheet, hfile, hsheet, hused, hrows⟩ := newFile_insertedAbove
  have hbounded : ∀ axis, ((CellRange.spanning ⟨49, 0⟩ ⟨50, 0⟩).along axis).stop.val <
      Index.unbounded.val - 1 := fun axis => by cases axis <;> decide
  have hheld := h _ file sheet _ (newFile_reachable.through insertedAbove) hfile hsheet hused
    hbounded .row
  rw [Extent.along, hrows] at hheld
  exact absurd hheld (by decide)

end Editor

end EnsembleDesk
