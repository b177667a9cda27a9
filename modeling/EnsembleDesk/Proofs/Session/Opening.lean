import EnsembleDesk.Proofs.Session.Events
/-!
# Contents of reachable editors

A file is opened with a fresh content, whose undo log is empty, and its visible sheet is presented
(`OpenFile.content_ofBook`). From then on its content changes by elementary changes alone. So what
holds of fresh contents, and is kept by every elementary change, holds of the content of the open
file of every reachable editor: `Editor.Reachable.content_induction`.
-/

namespace EnsembleDesk

/-- A workbook as it is opened: it has a sheet, and its lines have the chosen common sizes. -/
def Workbook.opened (book : Workbook) (options : GridOptions) : Workbook :=
  let book := if book.sheets.isEmpty then Workbook.blank else book
  ⟨book.sheets.map fun sheet =>
    { sheet with
      columns := { sheet.columns with common := Sizes.atLeastOne options.columnWidth }
      rows := { sheet.rows with common := Sizes.atLeastOne options.rowHeight } }⟩

/-- A workbook has the names of its sheets when it is opened, and that of a blank sheet if it has
none. -/
theorem Workbook.names_opened (book : Workbook) (options : GridOptions) :
    (book.opened options).names =
      (if book.sheets.isEmpty then Workbook.blank else book).names := by
  simp only [names, opened, List.map_map]
  rfl

/-- A workbook that is opened has a sheet. -/
theorem Workbook.names_opened_ne_nil (book : Workbook) (options : GridOptions) :
    (book.opened options).names ≠ [] := by
  rw [names_opened]
  split
  · exact List.cons_ne_nil _ _
  · rename_i h
    rw [names, ne_eq, List.map_eq_nil_iff]
    rintro hnil
    exact h (List.isEmpty_iff.2 hnil)

/-- The content of a file in which nothing was changed yet. -/
def Content.fresh (book : Workbook) (active : String) : Content := ⟨book, active, .empty, false⟩

/-- The content of a file that was just opened is sound if the sheet that is shown exists. -/
theorem Content.Sound.fresh {book : Workbook} {active : String} (h : active ∈ book.names) :
    (Content.fresh book active).Sound :=
  ⟨h, fun _ hedit => absurd hedit List.not_mem_nil, rfl, Nat.zero_le _⟩

namespace OpenFile

/-- A file is opened with a fresh content, and a sheet is presented. -/
theorem content_ofBook (path : String) (book : Workbook) (view : FileView) (options : GridOptions) :
    Yields (OpenFile.ofBook path book view options) fun file =>
      ∃ visible ∈ (book.opened options).names, ∃ saved,
        file.content =
          (Content.fresh (book.opened options) visible).apply (.present visible saved) := by
  -- the sheet that the view names if it exists, and the first one otherwise
  let visible :=
    if (book.opened options).names.contains view.visible then view.visible
    else (book.opened options).names.head?.getD Workbook.defaultSheetName
  have hvisible : visible ∈ (book.opened options).names := by
    simp only [visible]
    split
    · rename_i h
      exact List.contains_iff_mem.1 h
    · obtain ⟨name, names, hnames⟩ :=
        List.exists_cons_of_ne_nil (Workbook.names_opened_ne_nil book options)
      rw [hnames]
      exact List.mem_cons_self
  refine (restore_content hvisible options).imp fun file hfile => ?_
  exact ⟨visible, hvisible, _, hfile⟩

end OpenFile

namespace Editor

variable {editor : Editor}

/-- A file that is opened is open afterwards; if it is refused, nothing is changed. -/
theorem openFile_cases (editor : Editor) (path : String) (view : Option FileView) :
    (∃ book file visible saved, editor.readBook path = .ok book ∧
      editor.openFile path view = (.ok .done, { editor with file := some file }) ∧
      visible ∈ (book.opened editor.options).names ∧
      file.content =
        (Content.fresh (book.opened editor.options) visible).apply (.present visible saved)) ∨
      ∃ error, editor.openFile path view = (.error error, editor) := by
  cases hbook : editor.readBook path with
  | error error =>
    right
    refine ⟨error, ?_⟩
    rw [openFile, hbook]
    rfl
  | ok book =>
    left
    obtain ⟨file, hopened, visible, hvisible, saved, hcontent⟩ :=
      OpenFile.content_ofBook path book (view.getD {}) editor.options
    refine ⟨book, file, visible, saved, rfl, ?_, hvisible, hcontent⟩
    rw [openFile, hbook, Except.ok_bind, hopened]

/-- Without a file, nothing can be done to one. -/
theorem withFile_of_none (hfile : editor.file = none)
    (action : OpenFile → Except GridError (Answer × OpenFile)) :
    editor.withFile action = (.error .noFileOpen, editor) := by
  simp only [withFile, hfile]

/-- Without an open file, an operation that opens none leaves the editor without one. -/
theorem file_perform_of_none (hfile : editor.file = none) {operation : Operation}
    (hkeeps : operation.replacesFile = false) : (editor.perform operation).2.file = none := by
  have hwith := withFile_of_none hfile
  -- most operations work on the file by `withFile`; the others look for one themselves
  cases operation with
  | openFile path view => cases hkeeps
  | close => rfl
  | save => simp only [perform, save, hfile]
  | writeJson a value =>
    simp only [perform]
    split
    · exact hfile
    · rw [changeFile, hwith]
      exact hfile
  | command command =>
    cases command with
    | typeChar c =>
      simp only [perform, performCommand]
      split
      · exact hfile
      · rw [hwith]
        exact hfile
    | copy => exact (file_copy editor).trans hfile
    | paste => simp only [perform, performCommand, paste, hfile]
    | _ =>
      simp only [perform, performCommand, changeFile, hwith]
      exact hfile
  | _ =>
    simp only [perform, changeFile, hwith]
    exact hfile

/-! ### Options -/

/-- What is done to the file does not change the options. -/
theorem options_withFile (editor : Editor)
    (action : OpenFile → Except GridError (Answer × OpenFile)) :
    (editor.withFile action).2.options = editor.options := by
  unfold withFile
  split
  · rfl
  · split <;> rfl

/-- Copying does not change the options. -/
theorem options_copy (editor : Editor) : editor.copy.2.options = editor.options := by
  unfold copy
  split
  · rfl
  · split
    · rfl
    · rfl
    · split <;> rfl

/-- Pasting does not change the options. -/
theorem options_paste (editor : Editor) : editor.paste.2.options = editor.options := by
  unfold paste
  split
  · rfl
  · split
    · rfl
    · rfl
    · split
      · rfl
      · exact options_withFile editor _

/-- Saving does not change the options. -/
theorem options_save (editor : Editor) : editor.save.2.options = editor.options := by
  unfold save
  split
  · rfl
  · split
    · rfl
    · split <;> rfl

/-- No operation changes what the user chose. -/
theorem options_perform (editor : Editor) (operation : Operation) :
    (editor.perform operation).2.options = editor.options := by
  cases operation with
  | openFile path view =>
    rcases openFile_cases editor path view with ⟨book, file, visible, saved, -, hopened, -⟩ |
      ⟨error, hrefused⟩
    · rw [perform, hopened]
    · rw [perform, hrefused]
  | close => rfl
  | save => exact options_save editor
  | writeJson a value =>
    simp only [perform]
    split
    · rfl
    · exact options_withFile editor _
  | command command =>
    cases command with
    | typeChar c =>
      simp only [perform, performCommand]
      split
      · rfl
      · exact options_withFile editor _
    | copy => exact options_copy editor
    | paste => exact options_paste editor
    | _ => exact options_withFile editor _
  | _ => exact options_withFile editor _

/-! ### Reachable editors -/

/-- What holds of fresh contents and is kept by every elementary change holds of the content of the
open file of every reachable editor. Files are opened with the options that the editor has. -/
theorem Reachable.content_induction {P : Content → Prop}
    (hfresh : ∀ (other : Editor) path book visible, other.options = editor.options →
      other.readBook path = .ok book → visible ∈ (book.opened other.options).names →
      P (.fresh (book.opened other.options) visible))
    (happly : ∀ content change, content.Sound → P content → P (content.apply change))
    (reached : Reachable editor) {file : OpenFile} (hfile : editor.file = some file) :
    file.content.Sound ∧ P file.content := by
  -- the induction is on the editors; each operation makes several elementary changes
  have hall : ∀ content changes, content.Sound → P content → P (content.applyAll changes) := by
    intro content changes
    induction changes generalizing content with
    | nil => exact fun _ h => h
    | cons change changes ih =>
      exact fun hsound h => ih _ (hsound.apply change) (happly content change hsound h)
  generalize hoptions : editor.options = options at hfresh
  induction reached generalizing file with
  | start store clipboard options => cases hfile
  | provide reached store clipboard ih => exact ih hfile hoptions
  | @perform editor reached operation ih =>
    rw [options_perform] at hoptions
    cases hkeeps : operation.replacesFile with
    | true =>
      cases operation with
      | openFile path view =>
        rcases openFile_cases editor path view with
          ⟨book, opened, visible, saved, hbook, hopened, hvisible, hcontent⟩ | ⟨error, hrefused⟩
        · rw [Editor.perform, hopened] at hfile
          obtain rfl := Option.some.inj hfile
          have hsound := Content.Sound.fresh hvisible
          rw [hcontent]
          exact ⟨hsound.apply _,
            happly _ _ hsound (hfresh editor path book visible hoptions hbook hvisible)⟩
        -- a file that is refused leaves the one before open
        · rw [Editor.perform, hrefused] at hfile
          exact ih hfile hoptions
      | close => cases hfile
      | _ => cases hkeeps
    | false =>
      -- no operation but opening brings a file
      cases hbefore : editor.file with
      | none =>
        rw [file_perform_of_none hbefore hkeeps] at hfile
        cases hfile
      | some before =>
        obtain ⟨hsound, hholds⟩ := ih hbefore hoptions
        obtain ⟨after, hafter, hcontent⟩ := content_on hbefore hsound
          (.perform operation) fun other h => by cases h; exact hkeeps
        rw [on, hfile] at hafter
        obtain rfl := Option.some.inj hafter
        rw [hcontent]
        exact ⟨hsound.applyAll _, hall _ _ hsound hholds⟩

/-- The content of an open file is sound. -/
theorem Reachable.sound (reached : Reachable editor) {file : OpenFile}
    (hfile : editor.file = some file) : file.content.Sound :=
  (reached.content_induction (P := fun _ => True) (fun _ _ _ _ _ _ _ => trivial)
    (fun _ _ _ _ => trivial) hfile).1

/-- An editor that has opened a file that does not exist yet. -/
def newFile : Editor := (perform {} (.openFile "plan.csv" none)).2

/-- An editor that has opened a new file can be reached. -/
theorem newFile_reachable : Reachable newFile :=
  (Reachable.start {} {} {}).perform (.openFile "plan.csv" none)

end Editor

end EnsembleDesk
