import EnsembleDesk.Proofs.Session.Parts
import EnsembleDesk.Proofs.Sheet.Extents
/-!
# Scrolling

The scroll position is kept twice: the file has it, and the extent has the position of the last
event that it grew by. Showing a sheet restores the first one and starts the second one at zero, and
the echo of a restored position is passed over by both. So the first event after a restored position
may scroll back and make the grid grow (`Editor.scrolling_back_may_grow`). From then on the two
agree until another sheet is shown, and the grid grows only in the direction of the events.

## Main results

* `Editor.grows_only_forward`: what an event of scrolling does to the extent.
-/

namespace EnsembleDesk

namespace OpenFile

variable {file after : OpenFile}

/-- The extent was last scrolled to the position of the file, or not scrolled yet. -/
def ScrollKnown (file : OpenFile) : Prop :=
  file.extent.lastScroll = file.scroll ∨ file.extent.lastScroll = ⟨0.0, 0.0⟩

/-- Events are handled, and the extent was last scrolled to the position of the file. -/
structure ScrollFollowed (file : OpenFile) : Prop where
  /-- No echo of a restored position is awaited. -/
  handled : file.awaitsEcho = false
  /-- The extent was scrolled to the position of the file. -/
  position : file.extent.lastScroll = file.scroll

/-- The file after an event of scrolling that is handled. -/
def scrolledBy (file : OpenFile) (event : ScrollEvent Binary64) : OpenFile :=
  { file with
    client := event.client, scroll := event.scroll, extent := file.extent.afterScroll event }

/-- An event of scrolling that is no echo answers what is shown at its position. -/
theorem scrolled_eq_ok (h : file.content.Sound) (hecho : file.awaitsEcho = false)
    (event : ScrollEvent Binary64) (overscan : Index) :
    ∃ viewport, (file.scrolledBy event).viewport overscan = .ok viewport ∧
      file.scrolled event overscan = .ok (some viewport, file.scrolledBy event) := by
  have hsound : (file.scrolledBy event).content.Sound := h
  obtain ⟨viewport, hviewport, -⟩ := viewport_yields hsound overscan
  refine ⟨viewport, hviewport, ?_⟩
  rw [scrolled]
  refine (if_neg (Bool.not_eq_true _ ▸ hecho)).trans ?_
  exact congrArg (· >>= fun viewport => .ok (some viewport, file.scrolledBy event)) hviewport

/-- What was scrolled to, by the file and by its extent. -/
def scrolledTo (file : OpenFile) : Bool × Pair Binary64 × Pair Binary64 :=
  (file.awaitsEcho, file.scroll, file.extent.lastScroll)

/-- A common change scrolls nothing. -/
theorem Common.scrolledTo_eq (h : Common file after) : after.scrolledTo = file.scrolledTo := by
  cases h <;> rfl

/-- What leaves the position and the extent alone keeps the last position known. -/
theorem ScrollKnown.of_common (h : Common file after) (hknown : file.ScrollKnown) :
    after.ScrollKnown := by
  have hsame := h.scrolledTo_eq
  simp only [scrolledTo, Prod.mk.injEq] at hsame
  rwa [ScrollKnown, hsame.2.1, hsame.2.2]

/-- The last position is known in a view that was just restored, since its extent is a new one. -/
theorem ScrollKnown.of_restore {options : GridOptions} {name : String}
    (h : file.restore options name = .ok after) : after.ScrollKnown := by
  obtain ⟨sheet, -, h⟩ := Except.bind_eq_ok_iff.1 h
  cases h
  right
  -- the last cell that is used comes within the extent, which does not scroll it
  simp only [initialExtent]
  split <;> rfl

/-- An operation on the file keeps the last position known. -/
theorem ScrollKnown.of_own {options : GridOptions} {operation : Operation}
    (h : Own options operation file after) (hknown : file.ScrollKnown) : after.ScrollKnown := by
  cases h with
  | scroll event hecho => exact .inl rfl
  | restore hrestore => exact .of_restore hrestore
  | _ => exact hknown

/-- What leaves the position and the extent alone goes on to follow the events of scrolling. -/
theorem ScrollFollowed.of_common (h : Common file after) (hfollowed : file.ScrollFollowed) :
    after.ScrollFollowed := by
  have hsame := h.scrolledTo_eq
  simp only [scrolledTo, Prod.mk.injEq] at hsame
  obtain ⟨hecho, hscroll, hlast⟩ := hsame
  exact ⟨hecho.trans hfollowed.handled, by rw [hlast, hscroll, hfollowed.position]⟩

/-- An operation that stays on its sheet goes on to follow the events of scrolling. -/
theorem ScrollFollowed.of_own {options : GridOptions} {operation : Operation}
    (hstays : operation.leavesSheet = false) (h : Own options operation file after)
    (hfollowed : file.ScrollFollowed) : after.ScrollFollowed := by
  cases h with
  | scroll event hecho => exact ⟨hecho, rfl⟩
  | echo event hecho => exact ⟨rfl, hfollowed.position⟩
  | restore hrestore => cases hstays
  | _ => exact ⟨hfollowed.handled, hfollowed.position⟩

end OpenFile

namespace Editor

open OpenFile

variable {editor : Editor} {file : OpenFile}

/-- On every editor that can be reached, the last position is known. -/
theorem Reachable.scrollKnown (reached : Reachable editor) (hfile : editor.file = some file) :
    file.ScrollKnown := by
  refine reached.file_induction (P := ScrollKnown) (fun _ _ _ _ _ hopened => .of_restore hopened)
    (fun editor before operation after hbefore _ hknown hkeeps hafter => ?_) hfile
  exact (makes_perform hbefore hkeeps hafter).keeps (fun _ _ => .of_common) (fun _ _ => .of_own)
    hknown

/-- An event of scrolling is handled: the editor answers what is shown then, the file is scrolled to
the position of the event, and its extent grows only beyond a position. -/
def Handles (editor : Editor) (file : OpenFile) (position : Pair Binary64)
    (event : ScrollEvent Binary64) (after : OpenFile) : Prop :=
  (∃ viewport, editor.perform (.command (.scroll event)) =
      (.ok (.viewport (some viewport)), { editor with file := some after })) ∧
    after.scroll = event.scroll ∧ file.extent.GrowsBeyond position event after.extent

/-- An event is handled unless it is the echo of a restored position. -/
theorem Reachable.handles (reached : Reachable editor) (hfile : editor.file = some file)
    (hecho : file.awaitsEcho = false) (event : ScrollEvent Binary64) :
    ∃ after, editor.Handles file file.extent.lastScroll event after ∧ after.ScrollFollowed := by
  obtain ⟨viewport, -, hscrolled⟩ :=
    scrolled_eq_ok (reached.sound hfile) hecho event editor.options.overscan
  refine ⟨file.scrolledBy event, ⟨⟨viewport, ?_⟩, rfl, file.extent.growsBeyond_afterScroll event⟩,
    hecho, rfl⟩
  simp only [Editor.perform, performCommand, withFile, hfile, hscrolled, Except.map]

/-- An event that is not an echo is handled. The extent grows beyond the position that it was last
scrolled to: that of the file, or zero when the sheet has not been scrolled since it was shown. From
then on, whatever is done on the sheet, every event is handled, and the extent grows only beyond the
position of the file. -/
theorem grows_only_forward (reached : Reachable editor) (hfile : editor.file = some file)
    (hecho : file.awaitsEcho = false) (event : ScrollEvent Binary64) :
    ∃ after, editor.Handles file file.extent.lastScroll event after ∧
      (file.extent.lastScroll = file.scroll ∨ file.extent.lastScroll = ⟨0.0, 0.0⟩) ∧
      ∀ events, (∀ operation, .perform operation ∈ events → operation.leavesSheet = false) →
        ∃ before,
          ((editor.perform (.command (.scroll event))).2.through events).file = some before ∧
          ∀ next, ∃ last, ((editor.perform (.command (.scroll event))).2.through events).Handles
            before before.scroll next last := by
  obtain ⟨after, hhandles, hfollowed⟩ := reached.handles hfile hecho event
  refine ⟨after, hhandles, reached.scrollKnown hfile, fun events hstays => ?_⟩
  obtain ⟨⟨viewport, hperform⟩, -, -⟩ := hhandles
  -- from this event on, the extent follows the position of the file
  have reachedAfter := reached.perform (.command (.scroll event))
  rw [hperform] at reachedAfter ⊢
  obtain ⟨before, hbefore, hfollowed⟩ := keeps_through reachedAfter rfl hfollowed
    (fun operation hmem => Operation.replacesFile_of_leavesSheet (hstays operation hmem))
    (fun _ _ => .of_common)
    fun _ operation _ _ hmem => .of_own (hstays operation hmem)
  refine ⟨before, hbefore, fun next => ?_⟩
  obtain ⟨last, hlast, -⟩ :=
    (reachedAfter.through events).handles hbefore hfollowed.handled next
  rw [hfollowed.position] at hlast
  exact ⟨last, hlast⟩

/-- An editor that has opened a file far down, and has passed over the echo of its position. -/
def restoredFar : Editor :=
  Editor.after {} [
    .openFile "plan.csv" (some ⟨"Sheet1", [{ sheet := "Sheet1", scroll := ⟨0.0, 9600.0⟩ }]⟩),
    .command (.scroll ⟨⟨0.0, 9600.0⟩, ⟨2600.0, 10800.0⟩, ⟨900.0, 900.0⟩⟩)]

/-- An event that scrolls back by one row. -/
def backByOne : ScrollEvent Binary64 := ⟨⟨0.0, 9576.0⟩, ⟨2600.0, 10800.0⟩, ⟨900.0, 900.0⟩⟩

/-- An editor can be reached that has restored a position far down. -/
theorem restoredFar_reachable : restoredFar.Reachable := .of_after (.start _ _ _) _

/-- The position is restored, and the next event is not an echo. -/
theorem restoredFar_known :
    ∃ file, restoredFar.file = some file ∧ file.awaitsEcho = false ∧
      file.scroll = ⟨0.0, 9600.0⟩ ∧ file.extent.rows = 450 := by
  have hknown : restoredFar.file.map (fun file =>
      (file.awaitsEcho, file.scroll, file.extent.rows)) = some (false, ⟨0.0, 9600.0⟩, 450) := by
    decide
  obtain ⟨file, hfile, hfacts⟩ := Option.map_eq_some_iff.1 hknown
  simp only [Prod.mk.injEq] at hfacts
  exact ⟨file, hfile, hfacts⟩

/-- The first event that scrolls back is handled, and so is every one after a cell was written. -/
theorem grows_only_forward_restoredFar :
    ∃ file after before last, restoredFar.file = some file ∧ file.awaitsEcho = false ∧
      file.scroll = ⟨0.0, 9600.0⟩ ∧
      restoredFar.Handles file file.extent.lastScroll backByOne after ∧
      ((restoredFar.perform (.command (.scroll backByOne))).2.through
        [.perform (.write ⟨3, 2⟩ (some (.boolean true)))]).Handles
          before before.scroll backByOne last := by
  obtain ⟨file, hfile, hecho, hscroll, -⟩ := restoredFar_known
  obtain ⟨after, hafter, -, hevents⟩ :=
    grows_only_forward restoredFar_reachable hfile hecho backByOne
  obtain ⟨before, -, hnext⟩ := hevents [.perform (.write ⟨3, 2⟩ (some (.boolean true)))]
    fun operation hmem => by
      cases List.mem_singleton.1 hmem
      rfl
  obtain ⟨last, hlast⟩ := hnext backByOne
  exact ⟨file, after, before, last, hfile, hecho, hscroll, hafter, hlast⟩

/-- An event that scrolls back may make the grid grow: the first one after a position was restored
does. -/
theorem scrolling_back_may_grow :
    ¬ ∀ (editor : Editor) (file after : OpenFile) (event : ScrollEvent Binary64),
      editor.Reachable → editor.file = some file → file.awaitsEcho = false →
      (editor.perform (.command (.scroll event))).2.file = some after →
      ∀ axis, file.extent.along axis < after.extent.along axis →
        file.scroll.along axis < event.scroll.along axis := by
  intro h
  have hafter : (restoredFar.perform (.command (.scroll backByOne))).2.file.map (fun file =>
      file.extent.rows) = some 451 := by decide
  obtain ⟨file, hfile, hecho, hscroll, hfew⟩ := restoredFar_known
  obtain ⟨after, hgrown, hrows⟩ := Option.map_eq_some_iff.1 hafter
  have hlt : file.extent.along .row < after.extent.along .row := by
    rw [Extent.along, Extent.along, hfew, hrows]
    decide
  have hforward := h restoredFar file after backByOne restoredFar_reachable hfile hecho hgrown
    .row hlt
  rw [hscroll] at hforward
  exact absurd hforward (by decide)

end Editor

end EnsembleDesk
