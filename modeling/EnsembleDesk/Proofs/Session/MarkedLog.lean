import Mathlib.Data.List.DropRight
import EnsembleDesk.Proofs.Session.SavedState
import EnsembleDesk.Proofs.Sheet.Equality
/-!
# A log on its own

What an undo log answers can be said without an editor. `LoggedCells` are cells with a log of their
writes: a step writes a cell and records that, takes the last recorded write back, or marks the log
as clean. A run may do so in any order, on any sheets and with a log that keeps any number of
writes.

While a log is clean, the cells are those at the last mark. The other direction needs that the mark
can still be told from the length of the log: no write since the mark was recorded behind it when it
had been undone, and none made the log forget another one (`LoggedCells.KeepsMark`).

## Main results

* `LoggedCells.clean_cells_are_marked`: a log keeps no more writes than its limit; while it is clean
  the cells are those at the last mark; and if the mark is kept, it is clean exactly when it is as
  long as it was there.
-/

namespace EnsembleDesk

/-- The cells of several sheets. -/
structure SheetCells where
  /-- The value of a cell, by the name of its sheet and its address. -/
  cell? : String → Address → Option CellValue

namespace SheetCells

/-- Writes or clears a cell. -/
def write (cells : SheetCells) (sheet : String) (a : Address) (value : Option CellValue) :
    SheetCells :=
  ⟨fun name b => if name = sheet ∧ b = a then value else cells.cell? name b⟩

/-- The cells after a recorded write is taken back. -/
def takeBack (cells : SheetCells) (edit : CellEdit) : SheetCells :=
  cells.write edit.sheet edit.cell edit.old

/-- In both, every cell holds values that are the same, or the identical one (NaN is not the same as
itself). -/
def Alike (cells other : SheetCells) : Prop :=
  ∀ name a, CellValue.Alike (cells.cell? name a) (other.cell? name a)

/-- Cells are taken back write by write, up to values that are alike. -/
theorem rewinds : Rewinds takeBack Alike where
  refl _ _ _ := .refl _
  trans h h' name a := (h name a).trans (h' name a)
  takeBack h edit name a := by
    simp only [takeBack, write]
    split
    · exact .refl _
    · exact h name a

variable {cells : SheetCells} {sheet : String} {a : Address} {value : Option CellValue}

/-- A write that is taken back right after it was made leaves the cells as they were. -/
theorem takeBack_write :
    (cells.write sheet a value).takeBack ⟨sheet, a, cells.cell? sheet a, value⟩ = cells := by
  simp only [takeBack, write]
  congr 1
  funext name b
  split
  · rename_i h
    rw [h.1, h.2]
  · rfl

/-- A write that does not change its cell gives cells that are alike. -/
theorem alike_write (h : CellValue.sameCell (cells.cell? sheet a) value = true) :
    (cells.write sheet a value).Alike cells := by
  intro name b
  simp only [write]
  split
  · rename_i hcell
    rw [hcell.1, hcell.2]
    exact .symm (.inr h)
  · exact .refl _

end SheetCells

/-- Cells with a log of their writes. -/
structure LoggedCells where
  /-- The recorded writes. -/
  log : UndoLog
  /-- The cells. -/
  cells : SheetCells

/-- What can happen to cells with a log. -/
inductive LogStep where
  /-- A cell is written or cleared, and that is recorded. -/
  | write (sheet : String) (a : Address) (value : Option CellValue)
  /-- The last recorded write is taken back. -/
  | takeBack
  /-- The log is marked as clean. -/
  | mark

namespace LogStep

/-- Whether the log is marked as clean. -/
def isMark : LogStep → Bool
  | mark => true
  | _ => false

/-- The steps up to the last mark; none if there is no mark. -/
def upToMark (steps : List LogStep) : List LogStep := steps.rdropWhile fun step => !step.isMark

/-- The steps since the last mark; all of them if there is no mark. -/
def sinceMark (steps : List LogStep) : List LogStep := steps.rtakeWhile fun step => !step.isMark

/-- No step since the last mark is a mark. -/
theorem isMark_of_mem_sinceMark {steps : List LogStep} {step : LogStep}
    (h : step ∈ sinceMark steps) : step.isMark = false := by
  simpa using List.mem_rtakeWhile_imp h

/-- The last of the steps up to the mark is the mark. -/
theorem upToMark_eq (steps : List LogStep) :
    upToMark steps = [] ∨ ∃ front, upToMark steps = front ++ [mark] := by
  induction steps using List.reverseRecOn with
  | nil => exact .inl rfl
  | append_singleton steps step ih =>
    cases step with
    | mark => exact .inr ⟨steps, List.rdropWhile_concat_neg _ _ _ (by simp [isMark])⟩
    | write sheet a value =>
      rwa [upToMark, List.rdropWhile_concat_pos _ _ _ (by simp [isMark])]
    | takeBack => rwa [upToMark, List.rdropWhile_concat_pos _ _ _ (by simp [isMark])]

end LogStep

namespace LoggedCells

/-- Cells with a log that has recorded nothing. -/
def start (limit : Nat) (cells : SheetCells) : LoggedCells := ⟨.withLimit limit, cells⟩

/-- The record of a write: the value that it replaces is the one that the cell has. -/
def record (state : LoggedCells) (sheet : String) (a : Address) (value : Option CellValue) :
    CellEdit :=
  ⟨sheet, a, state.cells.cell? sheet a, value⟩

/-- One step. -/
def apply (state : LoggedCells) : LogStep → LoggedCells
  | .write sheet a value =>
    ⟨state.log.push (state.record sheet a value), state.cells.write sheet a value⟩
  | .takeBack =>
    match state.log.pop with
    | none => state
    | some (edit, log) => ⟨log, state.cells.takeBack edit⟩
  | .mark => { state with log := state.log.markClean }

/-- Several steps, in order. -/
def run (state : LoggedCells) (steps : List LogStep) : LoggedCells := steps.foldl apply state

/-- The steps of two runs are taken one run after the other. -/
theorem run_append (state : LoggedCells) (first second : List LogStep) :
    state.run (first ++ second) = (state.run first).run second :=
  List.foldl_append

/-- The mark can be told from the length of the log: whenever a write is recorded, the log is at
least as long as at the mark, and has room for one write more. -/
def KeepsMark (marked : LoggedCells) (steps : List LogStep) : Prop :=
  ∀ first sheet a value rest, steps = first ++ .write sheet a value :: rest →
    ((marked.run first).record sheet a value).changes = true →
      marked.log.length ≤ (marked.run first).log.length ∧
        (marked.run first).log.length < (marked.run first).log.limit

variable {state marked : LoggedCells} {steps : List LogStep}

/-! ### The length of the log -/

/-- A log has the limit that it was made with, and keeps it. -/
structure Bounded (limit : Nat) (state : LoggedCells) : Prop where
  /-- The limit is at least one. -/
  limit_eq : state.log.limit = max limit 1
  /-- The log keeps no more writes than that. -/
  length_le : state.log.length ≤ state.log.limit

/-- A log that has recorded nothing has the limit that it was made with. -/
theorem bounded_start (limit : Nat) (cells : SheetCells) : (start limit cells).Bounded limit :=
  ⟨rfl, Nat.zero_le _⟩

namespace Bounded

variable {limit : Nat}

/-- A step keeps the log within its limit. -/
theorem apply (h : state.Bounded limit) (step : LogStep) : (state.apply step).Bounded limit := by
  cases step with
  | write sheet a value =>
    have hlimit := UndoLog.limit_push state.log (state.record sheet a value)
    refine ⟨hlimit.trans h.limit_eq, ?_⟩
    exact (UndoLog.length_push_le _ h.length_le).trans hlimit.ge
  | takeBack =>
    rw [LoggedCells.apply]
    split
    · exact h
    · rename_i hpop
      obtain ⟨edits, hedits, rfl⟩ := UndoLog.pop_eq_some hpop
      have hlength := h.length_le
      rw [UndoLog.length, hedits, List.length_cons] at hlength
      exact ⟨h.limit_eq, Nat.le_of_succ_le hlength⟩
  | mark => exact ⟨h.limit_eq, h.length_le⟩

/-- Steps keep the log within its limit. -/
theorem run (h : state.Bounded limit) (steps : List LogStep) : (state.run steps).Bounded limit := by
  induction steps generalizing state with
  | nil => exact h
  | cons step steps ih => exact ih (h.apply step)

end Bounded

/-! ### The cells at the mark -/

/-- Taking back the writes since the mark leads to the cells that were kept there. -/
def LeadsTo (state : LoggedCells) (kept : SheetCells) : Prop :=
  state.log.LeadsTo SheetCells.takeBack SheetCells.Alike state.cells kept

/-- A step other than marking the log keeps where taking back leads. -/
theorem LeadsTo.apply {kept : SheetCells} (h : state.LeadsTo kept)
    (hlength : state.log.length ≤ state.log.limit) {step : LogStep} (hstep : step.isMark = false) :
    (state.apply step).LeadsTo kept := by
  cases step with
  | write sheet a value =>
    refine UndoLog.LeadsTo.push h SheetCells.rewinds hlength (fun _ => ?_) fun hchanges => ?_
    · show ((state.cells.write sheet a value).takeBack _).Alike state.cells
      rw [record, SheetCells.takeBack_write]
      exact SheetCells.rewinds.refl state.cells
    · rw [CellEdit.changes, Bool.not_eq_false'] at hchanges
      exact SheetCells.alike_write hchanges
  | takeBack =>
    rw [LoggedCells.apply]
    split
    · exact h
    · rename_i hpop
      exact UndoLog.LeadsTo.pop h hpop
  | mark => cases hstep

/-- Steps without a mark go on to lead back to the cells that were kept. -/
theorem LeadsTo.run {kept : SheetCells} {limit : Nat} (h : state.LeadsTo kept)
    (hbounded : state.Bounded limit) (hsteps : ∀ step ∈ steps, step.isMark = false) :
    (state.run steps).LeadsTo kept := by
  induction steps generalizing state with
  | nil => exact h
  | cons step steps ih =>
    exact ih (h.apply hbounded.length_le (hsteps step List.mem_cons_self)) (hbounded.apply step)
      fun other hmem => hsteps other (List.mem_cons_of_mem _ hmem)

/-! ### The length at the mark -/

/-- At the last mark, and at the start if there is none, the save point is the end of the log. -/
theorem saved_upToMark (limit : Nat) (cells : SheetCells) (steps : List LogStep) :
    let marked := (start limit cells).run (LogStep.upToMark steps)
    marked.log.saved = some marked.log.length := by
  rcases LogStep.upToMark_eq steps with hnone | ⟨front, hfront⟩
  · rw [hnone]
    rfl
  · rw [hfront, run_append]
    rfl

/-- A write that is recorded behind the save point, without another one being forgotten, leaves the
save point where it is. -/
theorem saved_push {log : UndoLog} {edit : CellEdit} {point : Nat} (h : log.saved = some point)
    (hroom : edit.changes = true → point ≤ log.length ∧ log.length < log.limit) :
    (log.push edit).saved = some point := by
  rw [UndoLog.push]
  split
  · rename_i hchanges
    obtain ⟨hle, hlt⟩ := hroom hchanges
    show log.savedAfter = some point
    rw [UndoLog.savedAfter, h]
    simp [hle.not_gt, hlt]
  · exact h

/-- The save point stays at the mark while the mark can be told from the length of the log. -/
theorem saved_run (h : marked.log.saved = some marked.log.length)
    (hsteps : ∀ step ∈ steps, step.isMark = false) (hkeeps : marked.KeepsMark steps) :
    (marked.run steps).log.saved = some marked.log.length := by
  -- the writes are looked at from the last one, because each is judged by what came before it
  induction steps using List.reverseRecOn with
  | nil => exact h
  | append_singleton steps step ih =>
    have hbefore : (marked.run steps).log.saved = some marked.log.length := by
      refine ih (fun other hmem => hsteps other (List.mem_append_left _ hmem)) ?_
      rintro first sheet a value rest rfl
      exact hkeeps first sheet a value (rest ++ [step]) (by simp)
    rw [run_append]
    cases step with
    | write sheet a value => exact saved_push hbefore (hkeeps steps sheet a value [] rfl)
    | takeBack =>
      show ((marked.run steps).apply .takeBack).log.saved = _
      rw [apply]
      split
      · exact hbefore
      · rename_i hpop
        obtain ⟨edits, -, rfl⟩ := UndoLog.pop_eq_some hpop
        exact hbefore
    | mark => exact absurd (hsteps .mark (by simp)) (by simp [LogStep.isMark])

/-- Whatever is done to cells with a log: the log keeps no more writes than its limit. While it is
clean, the cells are those at the last mark, or at the start. And if the mark can be told from the
length of the log since then, it is clean exactly when it is as long as it was at the mark. -/
theorem clean_cells_are_marked (limit : Nat) (cells : SheetCells) (steps : List LogStep) :
    let marked := (start limit cells).run (LogStep.upToMark steps)
    let now := (start limit cells).run steps
    now.log.length ≤ max limit 1 ∧ (now.log.isClean = true → now.cells.Alike marked.cells) ∧
      (marked.KeepsMark (LogStep.sinceMark steps) →
        (now.log.isClean = true ↔ now.log.length = marked.log.length)) := by
  intro marked now
  -- the run is cut at the last mark, and the steps behind it lead back to it
  have hnow : now = marked.run (LogStep.sinceMark steps) := by
    rw [← run_append, LogStep.upToMark, LogStep.sinceMark, List.rdropWhile_append_rtakeWhile]
  have hbounded : marked.Bounded limit := (bounded_start limit cells).run _
  have hsaved : marked.log.saved = some marked.log.length := saved_upToMark limit cells steps
  have hsteps : ∀ step ∈ LogStep.sinceMark steps, step.isMark = false :=
    fun step => LogStep.isMark_of_mem_sinceMark
  have hend : now.Bounded limit := (bounded_start limit cells).run steps
  refine ⟨hend.limit_eq ▸ hend.length_le, fun hclean => ?_, fun hkeeps => ?_⟩
  · have hleads : now.LeadsTo marked.cells := by
      rw [hnow]
      exact LeadsTo.run (UndoLog.leadsTo_self SheetCells.rewinds hsaved _) hbounded hsteps
    exact UndoLog.LeadsTo.alike_of_isClean hleads hclean
  · have hpoint : now.log.saved = some marked.log.length := by
      rw [hnow]
      exact saved_run hsaved hsteps hkeeps
    rw [UndoLog.isClean, decide_eq_true_iff, hpoint, Option.some_inj, eq_comm]

/-- A cell is written and the log marked, then another cell is written and that is taken back. -/
def backToMark : List LogStep :=
  [.write "Plan" ⟨.first, .first⟩ (some (.number 5)), .mark,
    .write "Plan" ⟨.first, Index.first.next⟩ (some (.number 7)), .takeBack]

/-- A log of a single write forgets the first one for the second, and is clean all the same when the
second one is taken back. In a log with room for both the mark is kept. -/
theorem clean_cells_are_marked_backToMark :
    let cells : SheetCells := ⟨fun _ _ => none⟩
    let marked (limit : Nat) := (start limit cells).run (LogStep.upToMark backToMark)
    let now (limit : Nat) := (start limit cells).run backToMark
    (now 1).log.isClean = true ∧ (now 1).cells.Alike (marked 1).cells ∧
      (marked 2).KeepsMark (LogStep.sinceMark backToMark) ∧ (now 2).log.isClean = true := by
  intro cells marked now
  obtain ⟨-, hsame, -⟩ := clean_cells_are_marked 1 cells backToMark
  obtain ⟨-, -, hclean⟩ := clean_cells_are_marked 2 cells backToMark
  have hkeeps : (marked 2).KeepsMark (LogStep.sinceMark backToMark) := by
    intro first sheet a value rest hsteps _
    -- the only write since the mark is the first step
    obtain rfl : first = [] := by
      rcases first with - | ⟨step, - | ⟨other, first⟩⟩
      · rfl
      · cases hsteps
      · cases first <;> cases hsteps
    decide
  exact ⟨rfl, hsame rfl, hkeeps, (hclean hkeeps).2 rfl⟩

end LoggedCells

end EnsembleDesk
