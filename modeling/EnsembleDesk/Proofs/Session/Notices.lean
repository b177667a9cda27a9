import EnsembleDesk.Proofs.Session.Opening
import EnsembleDesk.Proofs.Text.Tabbed
/-!
# Telling the user that a command failed

Only copying and pasting tell the user anything: that the clipboard cannot be used. What became of
a command is worked out afterwards, from its answer and from the editor before it, and this agrees
with what the user was told, except for a clipboard whose text has no rows: pasting it does nothing,
tells the user nothing, and still counts as notified (`Editor.notified_without_notice`).

## Main results

* `Editor.notified_iff_told`: when a command counts as notified, and when the user was told.
-/

namespace EnsembleDesk

/-- What the user is told when a command cannot use the clipboard. -/
def Command.failure? : Command → Option String
  | .copy => some "Could not copy the selection to the clipboard."
  | .paste => some "Could not read the clipboard."
  | _ => none

/-- Whether an answer is that of pasting. -/
def Answer.isOfPaste : Answer → Bool
  | .pasted _ => true
  | _ => false

namespace Editor

variable {editor : Editor} {command : Command}

/-- The user is told, in one error notice, that the command failed. -/
def Tells (editor : Editor) (command : Command) : Prop :=
  ∃ message ∈ command.failure?,
    (editor.execute command).2.notices = ⟨.error, message⟩ :: editor.notices

/-- The user is told nothing. -/
def Silent (editor : Editor) (command : Command) : Prop :=
  (editor.execute command).2.notices = editor.notices

/-- Something is selected, and the text on the clipboard that is to be pasted there has no rows. -/
def PastesNoRows (editor : Editor) (command : Command) : Prop :=
  command = .paste ∧ editor.hasSelection = true ∧
    ∃ text ∈ ["", "\n", "\r\n"], editor.clipboard.read? = some text

/-- Who is told nothing is not told of a failure. -/
theorem Silent.not_tells (h : editor.Silent command) : ¬ editor.Tells command := by
  rintro ⟨message, -, hnotices⟩
  exact List.cons_ne_self _ _ (hnotices.symm.trans h)

/-! ### Commands that do not use the clipboard -/

/-- A step tells the user nothing, and its answer is not that of pasting. -/
structure Quiet (editor : Editor) (step : Step) : Prop where
  /-- The user is told nothing. -/
  notices : step.2.notices = editor.notices
  /-- The answer is not that of pasting. -/
  answer : ∀ answer, step.1 = .ok answer → answer.isOfPaste = false

/-- An action on the open file tells the user nothing. -/
theorem notices_withFile (action : OpenFile → Except GridError (Answer × OpenFile)) :
    (editor.withFile action).2.notices = editor.notices := by
  rw [withFile]
  split
  · rfl
  · split <;> rfl

/-- What is answered after something was done to the open file is what that answered. -/
theorem exists_of_withFile_eq_ok {action : OpenFile → Except GridError (Answer × OpenFile)}
    {answer : Answer} (h : (editor.withFile action).1 = .ok answer) :
    ∃ file after, action file = .ok (answer, after) := by
  rw [withFile] at h
  split at h
  · cases h
  · rename_i file hfile
    split at h
    · rename_i given after hok
      cases h
      exact ⟨file, after, hok⟩
    · cases h

/-- An action on the open file is quiet if its answer is not that of pasting. -/
theorem quiet_withFile {action : OpenFile → Except GridError (Answer × OpenFile)}
    (haction : ∀ file answer after, action file = .ok (answer, after) → answer.isOfPaste = false) :
    editor.Quiet (editor.withFile action) where
  notices := notices_withFile action
  answer answer h := by
    obtain ⟨file, after, hok⟩ := exists_of_withFile_eq_ok h
    exact haction file answer after hok

/-- An action on the open file is quiet if no answer that is made of it is that of pasting. -/
theorem quiet_withFile_map {α : Type} {f : α → Answer}
    {action : OpenFile → Except GridError (α × OpenFile)} (hf : ∀ a, (f a).isOfPaste = false) :
    editor.Quiet (editor.withFile fun file =>
      (action file).map fun result => (f result.1, result.2)) := by
  refine quiet_withFile fun file answer after hok => ?_
  obtain ⟨⟨a, changed⟩, -, heq⟩ := Except.map_eq_ok_iff.1 hok
  cases heq
  exact hf a

/-- An action without an answer is quiet. -/
theorem quiet_changeFile (action : OpenFile → Except GridError OpenFile) :
    editor.Quiet (editor.changeFile action) := by
  refine quiet_withFile fun file answer after hok => ?_
  obtain ⟨changed, -, heq⟩ := Except.map_eq_ok_iff.1 hok
  cases heq
  rfl

/-- A command that does not use the clipboard tells the user nothing. -/
theorem quiet_performCommand (editor : Editor) (hfailure : command.failure? = none) :
    editor.Quiet (editor.performCommand command) := by
  -- what the other commands answer is no notice, whether they are refused or not
  cases command with
  | copy => cases hfailure
  | paste => cases hfailure
  | pointerMove a =>
    rw [performCommand]
    refine quiet_withFile fun file answer after hok => ?_
    cases hok
    rfl
  | typeChar c =>
    rw [performCommand]
    split
    · exact ⟨rfl, fun _ h => by cases h; rfl⟩
    · exact quiet_withFile_map fun _ => rfl
  | setEditText text =>
    rw [performCommand]
    refine quiet_withFile fun file answer after hok => ?_
    cases hok
    rfl
  | commitEdit => exact quiet_withFile_map fun _ => rfl
  | blur => exact quiet_withFile_map fun _ => rfl
  | delete => exact quiet_withFile_map fun _ => rfl
  | undo => exact quiet_withFile_map fun _ => rfl
  | scroll event => exact quiet_withFile_map fun _ => rfl
  | _ => exact quiet_changeFile _

/-- Only what copying and pasting answer can count as notified. -/
theorem outcomeOf_ne_notified {answer : Answer} (hfailure : command.failure? = none)
    (hanswer : answer.isOfPaste = false) : editor.outcomeOf command answer ≠ .notified := by
  have hflag : ∀ applied, Outcome.ofFlag applied ≠ .notified := by decide
  cases answer with
  | flag applied =>
    cases command with
    | copy => cases hfailure
    | _ => exact hflag applied
  | count n => exact hflag _
  | pasted range => cases hanswer
  | viewport viewport =>
    intro hnotified
    cases viewport <;> cases hnotified
  | done =>
    intro hnotified
    cases hnotified
  | view view =>
    intro hnotified
    cases hnotified

/-! ### What a command tells and what became of it -/

/-- What the user is told of a command and what became of it: both say that it failed, or neither
does, or a text without rows was to be pasted. -/
inductive Reports (editor : Editor) (command : Command) : Prop where
  /-- The command failed, and the user was told. -/
  | told {message : String} {after : Editor}
    (hexecute : editor.execute command = (.ok .notified, after))
    (hmessage : message ∈ command.failure?)
    (hnotices : after.notices = ⟨.error, message⟩ :: editor.notices)
    (hrows : ¬ editor.PastesNoRows command)
  /-- The command does not count as notified, and the user was told nothing. -/
  | untold {outcome : Except GridError Outcome} {after : Editor}
    (hexecute : editor.execute command = (outcome, after)) (houtcome : outcome ≠ .ok .notified)
    (hnotices : after.notices = editor.notices) (hrows : ¬ editor.PastesNoRows command)
  /-- There was nothing to be pasted, and the user was told nothing. -/
  | noRows {after : Editor} (hexecute : editor.execute command = (.ok .notified, after))
    (hnotices : after.notices = editor.notices) (hrows : editor.PastesNoRows command)

/-- A command that does not use the clipboard reports no failure. -/
theorem reports_of_no_failure (editor : Editor) (hfailure : command.failure? = none) :
    editor.Reports command := by
  obtain ⟨hnotices, hanswer⟩ := editor.quiet_performCommand hfailure
  refine .untold rfl (fun hnotified => ?_) hnotices fun hrows => ?_
  · obtain ⟨answer, hok, houtcome⟩ := Except.map_eq_ok_iff.1 hnotified
    exact outcomeOf_ne_notified hfailure (hanswer answer hok) houtcome
  · rw [hrows.1] at hfailure
    cases hfailure

/-- A command that is refused does not count as notified. -/
theorem map_error_ne_notified (error : GridError) :
    (Except.error error).map (editor.outcomeOf command) ≠ .ok .notified := by
  intro h
  cases h

/-- There is a text to be copied just where cells are selected. -/
theorem hasSelectedCells_of_copyText {file : OpenFile} (hfile : editor.file = some file)
    {text : Option String} (htext : file.copyText = .ok text) :
    editor.hasSelectedCells = text.isSome := by
  obtain ⟨sheet, -, htext⟩ := Except.bind_eq_ok_iff.1 htext
  obtain ⟨selected, hselected, htext⟩ := Except.bind_eq_ok_iff.1 htext
  cases htext
  simp only [hasSelectedCells, hfile, Option.map_some, hselected]
  cases selected <;> rfl

/-- Copying reports a clipboard that does not take the text. -/
theorem reports_copy (editor : Editor) : editor.Reports .copy := by
  have hrows : ¬ editor.PastesNoRows .copy := fun hrows => Command.noConfusion hrows.1
  have hexecute : editor.execute .copy =
      (editor.copy.1.map (editor.outcomeOf .copy), editor.copy.2) := rfl
  rw [copy] at hexecute
  split at hexecute
  · exact .untold hexecute (map_error_ne_notified _) rfl hrows
  · rename_i file hfile
    split at hexecute
    · exact .untold hexecute (map_error_ne_notified _) rfl hrows
    -- nothing is selected, or no cell within the used range
    · rename_i htext
      have hselected := hasSelectedCells_of_copyText hfile htext
      have hignored : editor.outcomeOf .copy (.flag false) = .ignored := by
        simp [outcomeOf, hselected]
      refine .untold hexecute (fun hnotified => ?_) rfl hrows
      cases hignored.symm.trans (Except.ok.inj hnotified)
    · rename_i text htext
      have hselected := hasSelectedCells_of_copyText hfile htext
      split at hexecute
      · exact .untold hexecute (fun hnotified => by cases hnotified) rfl hrows
      · have hnotified : editor.outcomeOf .copy (.flag false) = .notified := by
          simp [outcomeOf, hselected]
        rw [Except.map, hnotified] at hexecute
        exact .told hexecute rfl rfl hrows

/-- Something is selected if something is selected in the open file. -/
theorem hasSelection_of_file {file : OpenFile} (hfile : editor.file = some file) :
    editor.hasSelection = file.selection.isSome := by
  simp only [hasSelection, hfile, Option.bind_some]

/-- Pasting that pasted nothing counts as a failure where something is selected. -/
theorem outcomeOf_pasted_none (editor : Editor) :
    editor.outcomeOf .paste (.pasted none) =
      if editor.hasSelection then .notified else .ignored := rfl

/-- The texts without rows are the empty one and a single line break. -/
theorem read_eq_nil_iff_mem (text : String) :
    Tabbed.read text.toList = [] ↔ text ∈ ["", "\n", "\r\n"] := by
  simp only [Tabbed.read_eq_nil_iff, List.mem_cons, List.not_mem_nil, or_false,
    ← String.toList_inj]
  rfl

/-- Pasting reports a clipboard that cannot be read; a text without rows is the exception. -/
theorem reports_paste (editor : Editor) : editor.Reports .paste := by
  have hexecute : editor.execute .paste =
      (editor.paste.1.map (editor.outcomeOf .paste), editor.paste.2) := rfl
  rw [paste] at hexecute
  split at hexecute
  · rename_i hfile
    refine .untold hexecute (map_error_ne_notified _) rfl fun hrows => ?_
    rw [PastesNoRows, hasSelection, hfile] at hrows
    exact Bool.false_ne_true hrows.2.1
  · rename_i file hfile
    have hselection := hasSelection_of_file hfile
    split at hexecute
    · rename_i hnone
      rw [hnone] at hselection
      rw [Except.map, outcomeOf_pasted_none, hselection] at hexecute
      exact .untold hexecute (fun hnotified => by cases hnotified) rfl fun hrows =>
        Bool.false_ne_true (hselection.symm.trans hrows.2.1)
    · rename_i selection hsome hread
      rw [hsome] at hselection
      rw [Except.map, outcomeOf_pasted_none, hselection] at hexecute
      refine .told hexecute rfl rfl fun hnothing => ?_
      obtain ⟨-, -, text, -, htext⟩ := hnothing
      cases hread.symm.trans htext
    · rename_i selection text hsome hread
      rw [hsome] at hselection
      split at hexecute
      -- the selection is there, so pasting nothing is taken for a failure
      · rename_i hnil
        rw [Except.map, outcomeOf_pasted_none, hselection] at hexecute
        exact .noRows hexecute rfl
          ⟨rfl, hselection, text, (read_eq_nil_iff_mem text).1 hnil, hread⟩
      · rename_i hrows
        refine .untold hexecute (fun hnotified => ?_) (notices_withFile _) fun hnothing => ?_
        · obtain ⟨answer, hanswer, houtcome⟩ := Except.map_eq_ok_iff.1 hnotified
          obtain ⟨_, _, hok⟩ := exists_of_withFile_eq_ok hanswer
          obtain ⟨pasted, -, heq⟩ := Except.map_eq_ok_iff.1 hok
          cases heq
          cases houtcome
        · obtain ⟨-, -, other, hmem, hother⟩ := hnothing
          cases hread.symm.trans hother
          exact hrows ((read_eq_nil_iff_mem text).2 hmem)

/-- What every command reports. -/
theorem reports (editor : Editor) (command : Command) : editor.Reports command := by
  cases command with
  | copy => exact editor.reports_copy
  | paste => exact editor.reports_paste
  | _ => exact editor.reports_of_no_failure rfl

/-- A command counts as notified if the user was told, once, that it failed, or if the text on the
clipboard has no rows and something is selected; in that case, and of every other command, the user
is told nothing. -/
theorem notified_iff_told (editor : Editor) (command : Command) :
    ((editor.execute command).1 = .ok .notified ↔
        editor.Tells command ∨ editor.PastesNoRows command) ∧
      (¬ editor.Tells command → editor.Silent command) ∧
      (editor.PastesNoRows command → editor.Silent command) := by
  -- a paste without rows is the one command that counts as notified untold
  cases editor.reports command with
  | told hexecute hmessage hnotices hrows =>
    have htells : editor.Tells command := ⟨_, hmessage, by rw [hexecute, hnotices]⟩
    exact ⟨iff_of_true (by rw [hexecute]) (.inl htells), absurd htells, (absurd · hrows)⟩
  | untold hexecute houtcome hnotices hrows =>
    have hsilent : editor.Silent command := by rw [Silent, hexecute, hnotices]
    refine ⟨iff_of_false (by rwa [hexecute]) ?_, fun _ => hsilent, fun _ => hsilent⟩
    exact not_or.2 ⟨hsilent.not_tells, hrows⟩
  | noRows hexecute hnotices hrows =>
    have hsilent : editor.Silent command := by rw [Silent, hexecute, hnotices]
    exact ⟨iff_of_true (by rw [hexecute]) (.inr hrows), fun _ => hsilent, fun _ => hsilent⟩

/-- An editor with a new file in which the first cell is selected. -/
def firstCellSelected (clipboard : Clipboard) : Editor :=
  Editor.after { clipboard } [.openFile "plan.csv" none, .command (.pointerDown ⟨0, 0⟩ false)]

/-- An empty text has no rows to paste. -/
theorem pastesNoRows_emptyText :
    (firstCellSelected { text := some "" }).PastesNoRows .paste :=
  ⟨rfl, by decide, "", by decide, rfl⟩

/-- A clipboard that cannot be used, an empty one, and one that has a text. -/
theorem notified_iff_told_firstCell :
    ((firstCellSelected { available := false }).Tells .paste ∧
      ((firstCellSelected { available := false }).execute .paste).1 = .ok .notified) ∧
    ((firstCellSelected { text := some "" }).PastesNoRows .paste ∧
      (firstCellSelected { text := some "" }).Silent .paste) ∧
    (¬ (firstCellSelected { text := some "1" }).Tells .copy ∧
      (firstCellSelected { text := some "1" }).Silent .copy) := by
  have htells : (firstCellSelected { available := false }).Tells .paste :=
    ⟨"Could not read the clipboard.", rfl, by decide⟩
  have hsilent : (firstCellSelected { text := some "1" }).Silent .copy := by
    rw [Silent]
    decide
  exact ⟨⟨htells, (notified_iff_told _ _).1.2 (.inl htells)⟩,
    ⟨pastesNoRows_emptyText, (notified_iff_told _ _).2.2 pastesNoRows_emptyText⟩,
    ⟨hsilent.not_tells, (notified_iff_told _ _).2.1 hsilent.not_tells⟩⟩

/-- A command may count as notified although no notice was sent. -/
theorem notified_without_notice :
    ¬ ∀ (editor : Editor) (command : Command), editor.Reachable → editor.file.isSome = true →
      ((editor.execute command).1 = .ok .notified ↔
        ∃ message, (editor.execute command).2.notices = ⟨.error, message⟩ :: editor.notices) := by
  intro h
  have hreached : (firstCellSelected { text := some "" }).Reachable := .of_after (.start _ _ _) _
  have hnotices : ((firstCellSelected { text := some "" }).execute .paste).2.notices = [] := by
    decide
  obtain ⟨message, hsent⟩ := (h _ .paste hreached (by decide)).1 rfl
  rw [hnotices] at hsent
  cases hsent

end Editor

end EnsembleDesk
