import EnsembleDesk.Proofs.Session.Changes
/-!
# Runs of events

An event is an operation, or a change of what the host provides. `Editor.through` is the editor
after a list of events; a reachable editor is one that events lead to.

## Main results

* `Editor.content_through`: events that open and close no file change the content of the open one
  by the elementary changes `Editor.changesThrough`, and by no others;
* `Editor.Reachable.content_induction`: what holds of the content of a file that is opened, and is
  kept by every elementary change, holds of the content of the open file of every reachable editor.
-/

namespace EnsembleDesk

namespace Operation

/-- Whether the operation opens or closes a file. -/
def replacesFile : Operation → Bool
  | .openFile _ _ => true
  | .close => true
  | _ => false

/-- Whether the operation inserts or deletes a row or column. -/
def movesLines : Operation → Bool
  | .command (.insertLine _ _) => true
  | .command (.deleteLine _ _) => true
  | _ => false

/-- Whether the operation takes a write back. -/
def takesBack : Operation → Bool
  | .command .undo => true
  | _ => false

/-- Whether the operation opens a file. -/
def opens : Operation → Bool
  | .openFile _ _ => true
  | _ => false

/-- Whether the operation saves the file. -/
def saves : Operation → Bool
  | .save => true
  | _ => false

/-- An operation that neither opens nor closes a file does not open one. -/
theorem opens_of_replacesFile {operation : Operation} (h : operation.replacesFile = false) :
    operation.opens = false := by
  cases operation with
  | openFile path view => cases h
  | _ => rfl

end Operation

namespace Change

/-- Whether the change inserts or deletes a row or column. -/
def movesLines : Change → Bool
  | .insertLine _ _ => true
  | .deleteLine _ _ => true
  | _ => false

/-- Whether the change takes a write back. -/
def takesBack : Change → Bool
  | .takeBack => true
  | _ => false

/-- Whether the change saves the content. -/
def saves : Change → Bool
  | .save => true
  | _ => false

/-- Whether the change writes or clears a cell. -/
def writes : Change → Bool
  | .write _ _ => true
  | _ => false

/-- The change inserts or deletes lines, takes a write back or saves only if the operation does. -/
structure ComesOf (change : Change) (operation : Operation) : Prop where
  /-- Lines are moved by operations that move lines. -/
  movesLines : operation.movesLines = false → change.movesLines = false
  /-- Writes are taken back by operations that do that. -/
  takesBack : operation.takesBack = false → change.takesBack = false
  /-- The content is saved by operations that save. -/
  saves : operation.saves = false → change.saves = false

/-- A write may come of every operation. -/
theorem ComesOf.of_writes {change : Change} (h : change.writes = true) (operation : Operation) :
    change.ComesOf operation := by
  cases change with
  | write a value => exact ⟨fun _ => rfl, fun _ => rfl, fun _ => rfl⟩
  | _ => cases h

end Change

namespace Editor

/-- Something that happens to an editor. -/
inductive Event where
  /-- An operation is carried out. -/
  | perform (operation : Operation)
  /-- The host changes the files or the clipboard. -/
  | provide (store : FileStore) (clipboard : Clipboard)

/-- The editor after an event. -/
def on (editor : Editor) : Event → Editor
  | .perform operation => (editor.perform operation).2
  | .provide store clipboard => { editor with store, clipboard }

/-- The editor after events, in order. -/
def through (editor : Editor) (events : List Event) : Editor := events.foldl on editor

/-- Events lead from a reachable editor to a reachable one. -/
theorem Reachable.through {editor : Editor} (reached : Reachable editor) (events : List Event) :
    Reachable (editor.through events) := by
  induction events generalizing editor with
  | nil => exact reached
  | cons event events ih =>
    cases event with
    | perform operation => exact ih (reached.perform operation)
    | provide store clipboard => exact ih (reached.provide store clipboard)

/-! ### The changes of a run -/

/-- The elementary changes that an event makes to the content of the open file. -/
def eventChanges (editor : Editor) : Event → List Change
  | .perform operation =>
    match editor.file with
    | some file => editor.changes file operation
    | none => []
  | .provide _ _ => []

/-- The elementary changes that events make to the content of the open file. -/
def changesThrough (editor : Editor) : List Event → List Change
  | [] => []
  | event :: events => editor.eventChanges event ++ (editor.on event).changesThrough events

variable {editor : Editor} {file : OpenFile}

/-- While the file stays open, an event changes its content by the elementary changes that it
makes. -/
theorem content_on (hfile : editor.file = some file) (h : file.content.Sound) (event : Event)
    (hkeeps : ∀ operation, event = .perform operation → operation.replacesFile = false) :
    ∃ after, (editor.on event).file = some after ∧
      after.content = file.content.applyAll (editor.eventChanges event) := by
  cases event with
  | perform operation =>
    have hkeeps := hkeeps operation rfl
    rw [eventChanges, hfile]
    refine content_perform hfile h (fun path view hopen => ?_) fun hclose => ?_
    · rw [hopen] at hkeeps
      cases hkeeps
    · rw [hclose] at hkeeps
      cases hkeeps
  | provide store clipboard => exact ⟨file, hfile, rfl⟩

/-- Events that open and close no file make the changes of `changesThrough`. -/
theorem content_through (hfile : editor.file = some file) (h : file.content.Sound)
    {events : List Event}
    (hkeeps : ∀ operation, .perform operation ∈ events → operation.replacesFile = false) :
    ∃ after, (editor.through events).file = some after ∧
      after.content = file.content.applyAll (editor.changesThrough events) := by
  induction events generalizing editor file with
  | nil => exact ⟨file, hfile, rfl⟩
  | cons event events ih =>
    obtain ⟨next, hnext, hcontent⟩ := content_on hfile h event fun operation hevent =>
      hkeeps operation (hevent ▸ List.mem_cons_self)
    -- the content after the first event is sound again, so the rest of the run goes on from it
    have hsound := h.applyAll (editor.eventChanges event)
    obtain ⟨after, hafter, hchanged⟩ := ih hnext (hcontent ▸ hsound) fun operation hmem =>
      hkeeps operation (List.mem_cons_of_mem _ hmem)
    refine ⟨after, hafter, ?_⟩
    rw [hchanged, hcontent, changesThrough, Content.applyAll_append]

/-! ### Where changes come from -/

/-- Ending the typing only writes. -/
theorem writes_of_mem_commitChanges {change : Change} (h : change ∈ file.commitChanges) :
    change.writes = true := by
  rw [OpenFile.commitChanges] at h
  split at h
  · cases h
  · rw [List.mem_singleton.1 h]
    rfl

/-- Writing cells only writes. -/
theorem writes_of_mem_writeChanges {cells : List (Address × Option CellValue)} {change : Change}
    (h : change ∈ OpenFile.writeChanges cells) : change.writes = true := by
  obtain ⟨cell, -, rfl⟩ := List.mem_map.1 h
  rfl

/-- What comes after the end of the typing of a text. -/
theorem comesOf_of_mem_commitChanges_append {operation : Operation} {changes : List Change}
    (hchanges : ∀ change ∈ changes, change.ComesOf operation) :
    ∀ change ∈ file.commitChanges ++ changes, change.ComesOf operation := by
  intro change h
  rcases List.mem_append.1 h with h | h
  · exact .of_writes (writes_of_mem_commitChanges h) operation
  · exact hchanges change h

/-- Pasting neither moves lines, nor takes a write back, nor saves. -/
theorem comesOf_of_mem_pasteChanges {selection : Selection} {rows : List (List (List Char))}
    {change : Change} (h : change ∈ file.pasteChanges selection rows) :
    change.ComesOf (.command .paste) := by
  rw [OpenFile.pasteChanges, List.append_assoc] at h
  refine comesOf_of_mem_commitChanges_append (fun change h => ?_) change h
  rcases List.mem_append.1 h with h | h
  · exact .of_writes (writes_of_mem_writeChanges h) _
  · rw [List.mem_singleton.1 h]
    exact ⟨fun _ => rfl, fun _ => rfl, fun _ => rfl⟩

/-- A command makes only those changes that commands of its kind make. -/
theorem comesOf_of_mem_commandChanges {command : Command} {change : Change}
    (h : change ∈ editor.commandChanges file command) : change.ComesOf (.command command) := by
  -- most commands end the typing of a text and do nothing else to the content
  have hcommit : ∀ change ∈ file.commitChanges, change.ComesOf (.command command) :=
    fun change h => .of_writes (writes_of_mem_commitChanges h) _
  cases command with
  | pointerDown a extend =>
    rw [commandChanges] at h
    split at h
    · exact hcommit change h
    · cases h
  | doubleClick a => exact hcommit change h
  | arrow direction extend => exact hcommit change h
  | selectLine axis i => exact hcommit change h
  | commitEdit => exact hcommit change h
  | blur => exact hcommit change h
  | typeChar c =>
    rw [commandChanges] at h
    split at h
    · cases h
    · split at h
      · rw [List.mem_singleton.1 h]
        exact .of_writes rfl _
      · cases h
  | delete =>
    rw [commandChanges] at h
    split at h
    · cases h
    · exact .of_writes (writes_of_mem_writeChanges h) _
  | paste =>
    rw [commandChanges] at h
    split at h
    · split at h
      · cases h
      · exact comesOf_of_mem_pasteChanges h
    · cases h
  | insertLine axis i =>
    refine comesOf_of_mem_commitChanges_append (fun change h => ?_) change h
    rw [List.mem_singleton.1 h]
    exact ⟨fun h => absurd h.symm Bool.false_ne_true, fun _ => rfl, fun _ => rfl⟩
  | deleteLine axis i =>
    refine comesOf_of_mem_commitChanges_append (fun change h => ?_) change h
    rw [List.mem_singleton.1 h]
    exact ⟨fun h => absurd h.symm Bool.false_ne_true, fun _ => rfl, fun _ => rfl⟩
  | undo =>
    rw [List.mem_singleton.1 h]
    -- the one change that takes a write back is that of an undo
    exact ⟨fun _ => rfl, fun h => absurd h.symm Bool.false_ne_true, fun _ => rfl⟩
  | resize axis i size =>
    rw [List.mem_singleton.1 h]
    exact ⟨fun _ => rfl, fun _ => rfl, fun _ => rfl⟩
  | setActiveSheet name =>
    rw [commandChanges] at h
    split at h
    · refine comesOf_of_mem_commitChanges_append (fun change h => ?_) change h
      rw [List.mem_singleton.1 h]
      exact ⟨fun _ => rfl, fun _ => rfl, fun _ => rfl⟩
    · cases h
  | _ => cases h

/-- The changes that an operation makes come of it. -/
theorem comesOf_of_mem_changes {operation : Operation} {change : Change}
    (h : change ∈ editor.changes file operation) : change.ComesOf operation := by
  cases operation with
  | command command => exact comesOf_of_mem_commandChanges h
  | save =>
    refine comesOf_of_mem_commitChanges_append (fun change h => ?_) change h
    split at h
    · rw [List.mem_singleton.1 h]
      exact ⟨fun _ => rfl, fun _ => rfl, nofun⟩
    · cases h
  | write a value =>
    rw [List.mem_singleton.1 h]
    exact .of_writes rfl _
  | writeJson a value =>
    rw [changes] at h
    split at h
    · rw [List.mem_singleton.1 h]
      exact .of_writes rfl _
    · cases h
  | _ => cases h

/-- The changes that events make come of the operations among them. -/
theorem comesOf_of_mem_changesThrough {events : List Event} {change : Change}
    (h : change ∈ editor.changesThrough events) :
    ∃ operation, .perform operation ∈ events ∧ change.ComesOf operation := by
  induction events generalizing editor with
  | nil => cases h
  | cons event events ih =>
    rcases List.mem_append.1 h with h | h
    · cases event with
      | perform operation =>
        rw [eventChanges] at h
        split at h
        · exact ⟨operation, List.mem_cons_self, comesOf_of_mem_changes h⟩
        · cases h
      | provide store clipboard => cases h
    · obtain ⟨operation, hmem, hcomes⟩ := ih h
      exact ⟨operation, List.mem_cons_of_mem _ hmem, hcomes⟩

end Editor

end EnsembleDesk
