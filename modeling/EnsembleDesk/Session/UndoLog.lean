import EnsembleDesk.Sheet.CellValue
import EnsembleDesk.Sheet.Address
/-!
# The undo log

The log records writes of cells that changed something, the last one first, and forgets the oldest
ones beyond its limit. It also knows whether it is back where it was when the file was saved
(`UndoLog.isClean`).
-/

namespace EnsembleDesk

/-- A write of a cell. -/
structure CellEdit where
  /-- The name of the sheet. -/
  sheet : String
  /-- The cell. -/
  cell : Address
  /-- The value that was replaced. -/
  old : Option CellValue
  /-- The value that was written. -/
  new : Option CellValue
deriving DecidableEq

/-- Whether a write changed the value of its cell. -/
def CellEdit.changes (edit : CellEdit) : Bool := !CellValue.sameCell edit.old edit.new

/-- The recorded writes. -/
structure UndoLog where
  /-- The writes, the last one first. -/
  edits : List CellEdit
  /-- How many writes are kept. -/
  limit : Nat
  /-- The number of writes when the file was saved; none when that point cannot be reached. -/
  saved : Option Nat
deriving DecidableEq

namespace UndoLog

/-- An empty log that keeps at least one write. -/
def withLimit (limit : Nat) : UndoLog := ⟨[], max limit 1, some 0⟩

/-- An empty log that keeps a thousand writes. -/
def empty : UndoLog := withLimit 1000

/-- The number of writes. -/
def length (log : UndoLog) : Nat := log.edits.length

/-- The save point after a write: it is lost when it was undone before, and moves when the oldest
write is forgotten. -/
def savedAfter (log : UndoLog) : Option Nat := do
  let saved ← log.saved
  if log.length < saved then none
  else if log.length < log.limit then some saved
  else if saved = 0 then none else some (saved - 1)

/-- Records a write, unless it changed nothing. -/
def push (log : UndoLog) (edit : CellEdit) : UndoLog :=
  if edit.changes then
    { log with edits := (edit :: log.edits).take log.limit, saved := log.savedAfter }
  else log

/-- Takes the last write back. -/
def pop (log : UndoLog) : Option (CellEdit × UndoLog) :=
  match log.edits with
  | [] => none
  | edit :: edits => some (edit, { log with edits })

/-- The log without writes, as if the file was saved. -/
def clear (log : UndoLog) : UndoLog := { log with edits := [], saved := some 0 }

/-- Whether the log is back where it was when the file was saved. -/
def isClean (log : UndoLog) : Bool := log.saved = some log.length

/-- The log when the file is saved. -/
def markClean (log : UndoLog) : UndoLog := { log with saved := some log.length }

end UndoLog

end EnsembleDesk
