import EnsembleDesk.Proofs.Session.Parts
import EnsembleDesk.Proofs.Session.Refusals
import EnsembleDesk.Proofs.Session.UsedRange
/-!
# The names of sheets

Sheets are known by their names: in the workbook, as the sheet that is shown, in the views that are
kept, and in the recorded writes. `OpenFile.Named` says that these agree. It holds of every file
that is opened, whatever its bytes and the view that it is opened with, and every operation keeps
it.

## Main results

* `Editor.Reachable.named`: the names in the open file of a reachable editor agree;
* `Editor.names_never_dangle`: so an operation misses a sheet only if it is told to show one that
  does not exist.
-/

namespace EnsembleDesk

/-- A cell that cannot be read is no missing sheet. -/
theorem CellValue.missesSheet_of_ofJson {value : Json} {error : GridError}
    (h : CellValue.ofJson value = .error error) : error.missesSheet = false := by
  cases value with
  | number n =>
    rw [CellValue.ofJson, CellValue.ofNumber] at h
    split at h
    · cases h
    · cases h
      rfl
  | _ => cases h <;> rfl

namespace OpenFile

variable {file after : OpenFile}

/-- The names of the sheets in an open file agree. -/
structure Named (file : OpenFile) : Prop where
  /-- There is a sheet. -/
  sheets_ne_nil : file.book.sheets ≠ []
  /-- No two sheets have the same name. -/
  nodup : file.book.names.Nodup
  /-- The sheet that is shown exists. -/
  active : file.active ∈ file.book.names
  /-- The view names the sheet that is shown. -/
  visible : file.view.visible = file.active
  /-- The sheets of the recorded writes exist. -/
  edits : ∀ edit ∈ file.undo.edits, edit.sheet ∈ file.book.names

/-! ### The view names the sheet that is shown -/

/-- The view names the sheet that is shown. -/
def ViewsActive (file : OpenFile) : Prop := file.view.visible = file.active

namespace ViewsActive

/-- A sheet that is shown is the one that the view names. -/
theorem of_restore {options : GridOptions} {name : String}
    (h : file.restore options name = .ok after) : after.ViewsActive := by
  obtain ⟨sheet, -, h⟩ := Except.bind_eq_ok_iff.1 h
  cases h
  rfl

/-- The common changes show the same sheet. The view is written for that sheet, or not at all. -/
theorem of_common (h : Common file after) (hfile : file.ViewsActive) : after.ViewsActive := by
  cases h with
  | capture hsheet => rfl
  | _ => exact hfile

/-- Of the changes that only one operation makes, showing another sheet is the only one that writes
the view. -/
theorem of_own {options : GridOptions} {operation : Operation}
    (h : Own options operation file after) (hfile : file.ViewsActive) : after.ViewsActive := by
  cases h with
  | restore hrestore => exact .of_restore hrestore
  | _ => exact hfile

end ViewsActive

end OpenFile

namespace Editor

open OpenFile

variable {editor : Editor} {file after : OpenFile}

/-- An operation that neither opens nor closes a file leaves the view with the sheet that is
shown. -/
theorem viewsActive_perform (hfile : editor.file = some file) (h : file.ViewsActive)
    {operation : Operation} (hkeeps : operation.replacesFile = false)
    (hafter : (editor.perform operation).2.file = some after) : after.ViewsActive :=
  (makes_perform hfile hkeeps hafter).keeps (fun _ _ => .of_common) (fun _ _ => .of_own) h

/-- In a reachable editor, the names in the open file agree. -/
theorem Reachable.named (reached : Reachable editor) (hfile : editor.file = some file) :
    file.Named := by
  have hsound := reached.sound hfile
  have hactive : file.active ∈ file.book.names := hsound.active
  refine ⟨fun hnil => ?_, (reached.orderly hfile).names, hactive, ?_, hsound.edits⟩
  -- a workbook without sheets has none to show
  · rw [Workbook.names, hnil] at hactive
    cases hactive
  · exact reached.file_induction (P := ViewsActive)
      (fun _ _ _ _ _ hopened => .of_restore hopened)
      (fun _ _ _ _ hfile _ h hkeeps hafter => viewsActive_perform hfile h hkeeps hafter) hfile

/-! ### Sheets that are missed -/

/-- A file that cannot be read is no missing sheet. -/
theorem missesSheet_of_readBook {path : String} {error : GridError}
    (h : editor.readBook path = .error error) : error.missesSheet = false := by
  rw [readBook] at h
  split at h
  · exact BookFormat.missesSheet_of_read h
  · cases h

/-- An operation misses a sheet only if it is told to show one that does not exist. -/
theorem Refuses.missesSheet {operation : Operation} {error : GridError}
    (h : editor.Refuses operation error) (hmisses : error.missesSheet = true) :
    ∃ file name, editor.file = some file ∧ name ∉ file.book.names ∧ error = .unknownSheet name ∧
      operation = .command (.setActiveSheet name) := by
  cases h with
  | closed hfile hreaches => cases hmisses
  | unreadable hbook view => exact absurd ((missesSheet_of_readBook hbook).symm.trans hmisses) nofun
  | unsupported hvalue a =>
    exact absurd ((CellValue.missesSheet_of_ofJson hvalue).symm.trans hmisses) nofun
  | unknownSheet hfile hname => exact ⟨_, _, hfile, hname, rfl, rfl⟩
  | unwritable hfile hstore => cases hmisses

/-- The questions about the open file find its sheet. -/
theorem Reachable.questions (reached : Reachable editor) (hfile : editor.file = some file) :
    editor.activeSheet.isSome = true ∧ editor.viewport.isOk = true ∧
      editor.contentSize.isOk = true := by
  obtain ⟨sheet, -, hsheet⟩ := exists_sheet (reached.sound hfile)
  simp [activeSheet, viewport, contentSize, hfile, OpenFile.viewport, OpenFile.contentSize,
    hsheet, Except.toOption, Except.isOk, Except.toBool]

/-- The names in an editor never dangle: those in the open file agree, and so an operation, a
command or a question misses a sheet only if it is told to show one that does not exist. -/
theorem names_never_dangle (reached : Reachable editor) :
    (∀ file, editor.file = some file →
      file.book.sheets ≠ [] ∧ file.book.names.Nodup ∧ file.active ∈ file.book.names ∧
        file.view.visible = file.active ∧
        (∀ edit ∈ file.undo.edits, edit.sheet ∈ file.book.names) ∧
        editor.activeSheet.isSome = true ∧ editor.viewport.isOk = true ∧
        editor.contentSize.isOk = true) ∧
      (∀ operation name, (editor.perform operation).1 = .error (.unknownSheet name) →
        operation = .command (.setActiveSheet name) ∧
          ∃ file, editor.file = some file ∧ name ∉ file.book.names) ∧
      ∀ command name, (editor.execute command).1 = .error (.unknownSheet name) →
        command = .setActiveSheet name ∧
          ∃ file, editor.file = some file ∧ name ∉ file.book.names := by
  have hmisses : ∀ operation name, (editor.perform operation).1 = .error (.unknownSheet name) →
      operation = .command (.setActiveSheet name) ∧
        ∃ file, editor.file = some file ∧ name ∉ file.book.names := by
    intro operation name herror
    obtain ⟨file, missing, hfile, hmissing, hname, hoperation⟩ :=
      (reached.refused_iff.1 herror).missesSheet rfl
    cases hname
    exact ⟨hoperation, file, hfile, hmissing⟩
  refine ⟨fun file hfile => ?_, hmisses, fun command name herror => ?_⟩
  · have hnamed := reached.named hfile
    exact ⟨hnamed.sheets_ne_nil, hnamed.nodup, hnamed.active, hnamed.visible, hnamed.edits,
      reached.questions hfile⟩
  -- a command that is passed on is refused for the same reason
  · obtain ⟨hoperation, hfile⟩ :=
      hmisses (.command command) name (Except.map_eq_error_iff.1 herror)
    cases hoperation
    exact ⟨rfl, hfile⟩

/-- A document in which one sheet is named twice. -/
def repeatedNames : Json :=
  .object [("SheetNames", .array [.string "a", .string "b", .string "a"]),
    ("Sheets", .object [("a", .object []), ("b", .object [])])]

/-- An editor that has opened it with views of sheets that it does not have, and has written a
cell. -/
def strayViews : Editor :=
  Editor.after { store := FileStore.put {} "plan.json" (utf8 repeatedNames.compact) } [
    .openFile "plan.json" (some ⟨"c", [{ sheet := "c" }, { sheet := "b" }, { sheet := "b" }]⟩),
    .write ⟨0, 0⟩ (some (.boolean true)), .command (.setActiveSheet "c")]

/-- The first sheet is shown then, and the one that the view names is still missed. -/
theorem names_never_dangle_strayViews :
    strayViews.Reachable ∧ ∃ file, strayViews.file = some file ∧ file.book.names = ["a", "b"] ∧
      file.active = "a" ∧ file.view.visible = file.active ∧ file.undo.length = 1 ∧
      (∀ edit ∈ file.undo.edits, edit.sheet ∈ file.book.names) ∧
      (strayViews.perform (.command (.setActiveSheet "c"))).1 = .error (.unknownSheet "c") ∧
      "c" ∉ file.book.names := by
  have reached : strayViews.Reachable := .of_after (.start _ _ _) _
  have hknown : strayViews.file.map (fun file => (file.book.names, file.active, file.undo.length)) =
      some (["a", "b"], "a", 1) := by decide +kernel
  obtain ⟨file, hfile, hfacts⟩ := Option.map_eq_some_iff.1 hknown
  obtain ⟨hnames, hactive, hlength⟩ : file.book.names = ["a", "b"] ∧ file.active = "a" ∧
      file.undo.length = 1 := by simpa using hfacts
  have hmissed :
      (strayViews.perform (.command (.setActiveSheet "c"))).1 = .error (.unknownSheet "c") := by
    have hc : "c" ∉ file.book.names := by
      rw [hnames]
      decide
    exact congrArg Prod.fst (performCommand_of_unknownSheet hfile hc)
  obtain ⟨hnamed, hmisses, -⟩ := names_never_dangle reached
  obtain ⟨-, -, -, hvisible, hedits, -⟩ := hnamed file hfile
  obtain ⟨-, other, hother, hname⟩ := hmisses _ _ hmissed
  obtain rfl := Option.some.inj (hfile.symm.trans hother)
  exact ⟨reached, file, hfile, hnames, hactive, hvisible, hlength, hedits, hmissed, hname⟩

end Editor

end EnsembleDesk
