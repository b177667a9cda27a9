import EnsembleDesk.Session.UndoLog
/-!
# The state at the save point

An undo log does not keep the state that was saved, only where in its list of writes that was. What
makes it reliable is that taking the writes back to that place leads to the state:
`UndoLog.LeadsTo`. Recording a write keeps this, whether the save point is lost or moves because the
oldest write is forgotten (`UndoLog.LeadsTo.push`), and so does taking one back, also past the save
point (`UndoLog.LeadsTo.pop`). A log that is clean has nothing to take back, and the state is the
one that was saved (`UndoLog.LeadsTo.alike_of_isClean`).

Nothing of this depends on what the states are. All that is asked is how a write is taken back, and
which states are alike (`Rewinds`).
-/

namespace EnsembleDesk

variable {State : Type} {takeBack : State → CellEdit → State} {Alike : State → State → Prop}

/-- States that are alike stay so when writes are taken back. -/
structure Rewinds (takeBack : State → CellEdit → State) (Alike : State → State → Prop) : Prop where
  /-- A state is like itself. -/
  refl : ∀ state, Alike state state
  /-- Alikeness goes from one state to the next. -/
  trans : ∀ {state other third}, Alike state other → Alike other third → Alike state third
  /-- The same write is taken back from both. -/
  takeBack : ∀ {state other}, Alike state other → ∀ edit,
    Alike (takeBack state edit) (takeBack other edit)

/-- Several writes are taken back. -/
theorem Rewinds.foldl (hrewinds : Rewinds takeBack Alike) {state other : State}
    (h : Alike state other) (edits : List CellEdit) :
    Alike (edits.foldl takeBack state) (edits.foldl takeBack other) := by
  induction edits generalizing state other with
  | nil => exact h
  | cons edit edits ih => exact ih (hrewinds.takeBack h edit)

namespace UndoLog

variable {log : UndoLog} {edit : CellEdit} {state kept : State}

theorem mem_edits_push {other : CellEdit} (h : other ∈ (log.push edit).edits) :
    other = edit ∨ other ∈ log.edits := by
  rw [push] at h
  split at h
  · exact List.mem_cons.1 (List.mem_of_mem_take h)
  · exact .inr h

theorem limit_push (log : UndoLog) (edit : CellEdit) : (log.push edit).limit = log.limit := by
  rw [push]
  split <;> rfl

theorem length_push_le (edit : CellEdit) (h : log.length ≤ log.limit) :
    (log.push edit).length ≤ log.limit := by
  rw [push]
  split
  · exact List.length_take_le _ _
  · exact h

/-- The write that is taken back was the last one, and nothing else of the log changes. -/
theorem pop_eq_some {rest : UndoLog} (h : log.pop = some (edit, rest)) :
    ∃ edits, log.edits = edit :: edits ∧ rest = { log with edits } := by
  rw [pop] at h
  split at h
  · cases h
  · rename_i last edits hedits
    obtain ⟨rfl, rfl⟩ := Prod.mk.inj (Option.some.inj h)
    exact ⟨edits, hedits, rfl⟩

/-- When a write is recorded, the save point stays where it is: the writes back to it are the new
one and those before. -/
theorem take_push (hchanges : edit.changes = true) (hlength : log.length ≤ log.limit) {after : Nat}
    (hafter : (log.push edit).saved = some after) :
    ∃ saved, log.saved = some saved ∧ saved ≤ log.length ∧
      (log.push edit).edits.take ((log.push edit).length - after) =
        edit :: log.edits.take (log.length - saved) := by
  rw [push, if_pos hchanges] at hafter ⊢
  obtain ⟨saved, hsaved, hafter⟩ := Option.bind_eq_some_iff.1 hafter
  -- the save point lies behind the new write
  by_cases hpassed : log.length < saved
  · rw [if_pos hpassed] at hafter
    cases hafter
  rw [if_neg hpassed] at hafter
  have hle := Nat.le_of_not_lt hpassed
  -- what remains is to count the writes back to the save point
  suffices hcount : min (min log.limit (log.length + 1) - after) log.limit =
      log.length - saved + 1 by
    refine ⟨saved, hsaved, hle, ?_⟩
    rw [length, List.length_take, List.length_cons, List.take_take, ← length, hcount,
      List.take_succ_cons]
  by_cases hroom : log.length < log.limit
  · rw [if_pos hroom] at hafter
    obtain rfl := Option.some.inj hafter
    omega
  · -- the oldest write is forgotten, and the save point counts one less
    rw [if_neg hroom] at hafter
    by_cases hzero : saved = 0
    · rw [if_pos hzero] at hafter
      cases hafter
    · rw [if_neg hzero] at hafter
      obtain rfl := Option.some.inj hafter
      omega

/-- Taking back the writes since the save point leads from a state to the one that was kept. Nothing
is said when the save point cannot be reached. -/
def LeadsTo (takeBack : State → CellEdit → State) (Alike : State → State → Prop) (log : UndoLog)
    (state kept : State) : Prop :=
  ∀ saved, log.saved = some saved → saved ≤ log.length →
    Alike ((log.edits.take (log.length - saved)).foldl takeBack state) kept

/-- At the save point, the state is the one that is kept. -/
theorem leadsTo_self (hrewinds : Rewinds takeBack Alike) (h : log.saved = some log.length)
    (state : State) : log.LeadsTo takeBack Alike state state := by
  intro saved hsaved _
  obtain rfl : log.length = saved := Option.some.inj (h.symm.trans hsaved)
  rw [Nat.sub_self, List.take_zero]
  exact hrewinds.refl state

namespace LeadsTo

/-- A state that is alike leads to the same state. -/
theorem of_alike (h : log.LeadsTo takeBack Alike state kept) (hrewinds : Rewinds takeBack Alike)
    {other : State} (hother : Alike other state) : log.LeadsTo takeBack Alike other kept :=
  fun saved hsaved hle => hrewinds.trans (hrewinds.foldl hother _) (h saved hsaved hle)

/-- A write that is recorded, or that leaves the state as it is. -/
theorem push (h : log.LeadsTo takeBack Alike state kept) (hrewinds : Rewinds takeBack Alike)
    (hlength : log.length ≤ log.limit) {after : State}
    (hback : edit.changes = true → Alike (takeBack after edit) state)
    (hsame : edit.changes = false → Alike after state) :
    (log.push edit).LeadsTo takeBack Alike after kept := by
  cases hchanges : edit.changes with
  | true =>
    intro point hpoint _
    obtain ⟨saved, hsaved, hle, htake⟩ := take_push hchanges hlength hpoint
    rw [htake, List.foldl_cons]
    exact hrewinds.trans (hrewinds.foldl (hback hchanges) _) (h saved hsaved hle)
  | false =>
    rw [UndoLog.push, hchanges]
    exact h.of_alike hrewinds (hsame hchanges)

/-- The last write is taken back. -/
theorem pop (h : log.LeadsTo takeBack Alike state kept) {rest : UndoLog}
    (hpop : log.pop = some (edit, rest)) :
    rest.LeadsTo takeBack Alike (takeBack state edit) kept := by
  obtain ⟨edits, hedits, rfl⟩ := pop_eq_some hpop
  intro saved hsaved hle
  have hlength : log.length = edits.length + 1 := by
    rw [length, hedits, List.length_cons]
  have hle : saved ≤ edits.length := hle
  -- before the last write was taken back there was one write more to take back
  have hmore := h saved hsaved (by omega)
  rwa [hlength, hedits, Nat.succ_sub hle, List.take_succ_cons, List.foldl_cons] at hmore

/-- A log that is clean has its save point at its end, so that there is nothing to take back. -/
theorem alike_of_isClean (h : log.LeadsTo takeBack Alike state kept) (hclean : log.isClean = true) :
    Alike state kept := by
  have hsaved : log.saved = some log.length := of_decide_eq_true hclean
  have hstate := h _ hsaved (Nat.le_refl _)
  rwa [Nat.sub_self, List.take_zero] at hstate

end LeadsTo

end UndoLog

end EnsembleDesk
