import EnsembleDesk.Session.Basic
/-!
# Outcomes of commands

A host that only passes on what the user does (`Editor.execute`) is told whether a command applied,
whether the user was notified of a failure, and what has to be shown anew.
-/

namespace EnsembleDesk

/-- What became of a command. -/
inductive Outcome where
  /-- It was carried out. -/
  | success
  /-- It does not apply. -/
  | ignored
  /-- It failed, and the user was told. -/
  | notified
  /-- Another part of the sheet is shown. -/
  | viewport (viewport : Viewport Binary64)
  /-- Cells were pasted. -/
  | pasted (range : CellRange)
deriving DecidableEq

namespace Outcome

/-- Success, or nothing to do. -/
def ofFlag (applied : Bool) : Outcome := if applied then success else ignored

end Outcome

namespace Editor

/-- Whether there are selected cells. -/
def hasSelectedCells (editor : Editor) : Bool :=
  match editor.file.map OpenFile.selected with
  | some (.ok (some _)) => true
  | _ => false

/-- Whether there is a selection. -/
def hasSelection (editor : Editor) : Bool :=
  (editor.file.bind OpenFile.selection).isSome

/-- What became of a command, from the editor before it and its answer. -/
def outcomeOf (editor : Editor) (command : Command) : Answer → Outcome
  | .flag applied =>
    match command with
    | .copy =>
      if applied then .success
      else if editor.hasSelectedCells then .notified
      else .ignored
    | _ => .ofFlag applied
  | .count n => .ofFlag (0 < n)
  | .pasted (some range) => .pasted range
  | .pasted none => if editor.hasSelection then .notified else .ignored
  | .viewport (some viewport) => .viewport viewport
  | .viewport none => .ignored
  | .done => .success
  | .view _ => .success

/-- Carries out a command and tells what became of it. -/
def execute (editor : Editor) (command : Command) : Except GridError Outcome × Editor :=
  let (answer, after) := editor.performCommand command
  (answer.map (editor.outcomeOf command), after)

end Editor

end EnsembleDesk
