import EnsembleDesk.Proofs.Session.Typing
import Mathlib.Data.List.Induction
/-!
# Where a text was begun

The text that is being typed and the selection are kept apart, and the editor shows the text at the
selection. `Editor.TypesAt` says that the two agree: a text is typed into a cell, that cell is the
anchor of the selection, and a sheet is shown. A text is begun by an event that leads there from an
editor that types nothing, or by a double click (`Editor.Begins`). No other event leads there from
another cell or sheet (`Editor.begins_or_typesAt`), so along a run the cell and the sheet are those
where the last text was begun.

## Main results

* `Editor.typed_cell_is_anchor`: in a reachable editor the text is typed at the anchor of the
  selection, and it has been typed there, on the same sheet, ever since it was begun.
-/

namespace EnsembleDesk

namespace OpenFile

variable {file after : OpenFile}

/-- At most one text is typed in a file. -/
theorem Types.unique {sheet other : String} {a b : Address} (h : file.Types sheet a)
    (h' : file.Types other b) : sheet = other ∧ a = b :=
  ⟨h.1.symm.trans h'.1, Option.some.inj (h.2.symm.trans h'.2)⟩

end OpenFile

namespace Editor

open OpenFile

variable {editor start : Editor} {file : OpenFile} {event : Event} {sheet : String} {a : Address}

/-- A text is typed into a cell of the sheet that is shown, at the anchor of the selection. -/
structure TypesAt (editor : Editor) (sheet : String) (a : Address) : Prop where
  /-- A text is typed into the cell. -/
  status : editor.status = .editing a
  /-- The sheet is shown. -/
  active : editor.file.map OpenFile.active = some sheet
  /-- There is a selection, and the cell is its anchor. -/
  anchor : (editor.file.bind OpenFile.selection).map Selection.anchor = some a

/-- After an event a text is typed that was not typed before it. -/
structure Begins (editor : Editor) (event : Event) (sheet : String) (a : Address) : Prop where
  /-- The text is typed. -/
  types : (editor.on event).TypesAt sheet a
  /-- It is begun by a double click, or there was no text before. -/
  fresh : event = .perform (.command (.doubleClick a)) ∨ ∀ b, editor.status ≠ .editing b

/-- The status tells of editing a cell if and only if a text is typed into that cell. -/
theorem status_eq_editing_iff :
    editor.status = .editing a ↔
      ∃ file session, editor.file = some file ∧ file.edit = some session ∧ session.cell = a := by
  cases hfile : editor.file with
  | none => simp [status, hfile]
  | some file => cases hedit : file.edit <;> simp [status, hfile, hedit]

/-- A text that is typed at the anchor is typed in the file that is open. -/
theorem TypesAt.exists_types (h : editor.TypesAt sheet a) :
    ∃ file, editor.file = some file ∧ file.Types sheet a := by
  obtain ⟨file, session, hfile, hedit, rfl⟩ := status_eq_editing_iff.1 h.status
  have hactive := h.active
  rw [hfile] at hactive
  exact ⟨file, hfile, Option.some.inj hactive, congrArg (Option.map EditSession.cell) hedit⟩

/-- At most one text is typed in an editor. -/
theorem TypesAt.unique {other : String} {b : Address} (h : editor.TypesAt sheet a)
    (h' : editor.TypesAt other b) : sheet = other ∧ a = b := by
  obtain ⟨file, hfile, htypes⟩ := h.exists_types
  obtain ⟨same, hsame, htypes'⟩ := h'.exists_types
  cases hfile.symm.trans hsame
  exact htypes.unique htypes'

/-- On every editor that can be reached, a text that is typed is typed at the anchor. -/
theorem Reachable.typesAt (reached : Reachable editor) (hfile : editor.file = some file)
    (htypes : file.Types sheet a) : editor.TypesAt sheet a := by
  obtain ⟨session, hedit, hcell⟩ := htypes.exists_session
  refine ⟨status_eq_editing_iff.2 ⟨file, session, hfile, hedit, hcell⟩, ?_, ?_⟩
  · rw [hfile]
    exact congrArg some htypes.1
  · rw [hfile]
    exact hcell ▸ reached.anchored hfile session hedit

section

variable (hfile : editor.file = some file) {operation : Operation} {after : OpenFile}
  (hafter : (editor.perform operation).2.file = some after)

include hfile hafter

/-- An operation that drops the text leaves none, unless it is refused. -/
theorem edit_of_dropsTyping (hdrops : operation.dropsTyping editor = true) :
    after.edit = none ∨ after = file := by
  cases operation with
  | openFile path view =>
    simp only [perform, openFile] at hafter
    split at hafter
    · rename_i opened hopened
      cases hafter
      obtain ⟨book, -, hopened⟩ := Except.bind_eq_ok_iff.1 hopened
      exact .inl (edit_of_restore hopened)
    · exact .inr (Option.some.inj (hafter.symm.trans hfile))
  | close => cases hafter
  | command command =>
    cases command with
    | undo =>
      exact withFile_map_keeps (P := fun after => after.edit = none ∨ after = file) hfile (.inr rfl)
        (fun _ _ hok => .inl (edit_of_takeBack hok)) hafter
    | _ => cases hdrops
  | _ => cases hdrops

/-- A text that an operation neither ends nor drops stays where it is typed. -/
theorem types_of_goesOn (hends : operation.endsTyping editor file = false)
    (hdrops : operation.dropsTyping editor = false) (htypes : file.Types sheet a) :
    after.Types sheet a := by
  cases hkeeps : operation.replacesFile with
  | false => exact (follows_perform hfile hkeeps hafter).types hends hdrops sheet a htypes
  | true =>
    cases operation with
    | openFile path view =>
      -- a file that cannot be opened leaves the one before open
      rcases openFile_cases editor path view with ⟨_, _, _, _, -, hopened, -⟩ | ⟨_, hrefused⟩
      · rw [Operation.dropsTyping, hopened] at hdrops
        cases hdrops
      · rw [perform, hrefused] at hafter
        cases hfile.symm.trans hafter
        exact htypes
    | close => cases hdrops
    | _ => cases hkeeps

/-- A text that is typed after an operation was typed into the same cell of the same sheet before,
unless it was begun by a double click. -/
theorem doubleClick_or_types (reached : Reachable editor) {session : EditSession}
    (hedit : file.edit = some session) (htypes : after.Types sheet a) :
    operation = .command (.doubleClick a) ∨ file.Types sheet a := by
  have hbefore : file.Types file.active session.cell :=
    ⟨rfl, congrArg (Option.map EditSession.cell) hedit⟩
  obtain ⟨typed, htyped, hcell⟩ := htypes.exists_session
  cases hends : operation.endsTyping editor file with
  | true =>
    -- the text was committed, so there is one only if the operation began it
    have hsound := reached.sound hfile
    obtain ⟨committed, hcommit, -⟩ := commit_content hsound
    have hselection : file.selection ≠ none := by
      intro hnone
      have hanchor := reached.anchored hfile session hedit
      rw [hnone] at hanchor
      cases hanchor
    obtain ⟨ended, hended, hclicked⟩ :=
      (endsTyping_perform hfile hsound hcommit hselection hends).ended
    cases hended.symm.trans hafter
    exact .inl (hcell ▸ hclicked typed htyped)
  | false =>
    right
    cases hdrops : operation.dropsTyping editor with
    | true =>
      rcases edit_of_dropsTyping hfile hafter hdrops with hnone | rfl
      · cases hnone.symm.trans htyped
      · exact htypes
    | false =>
      obtain ⟨rfl, rfl⟩ := (types_of_goesOn hfile hafter hends hdrops hbefore).unique htypes
      exact hbefore

end

/-- A text that is typed after an event was begun by it, or typed into the same cell of the same
sheet before. -/
theorem begins_or_typesAt (reached : Reachable editor) (h : (editor.on event).TypesAt sheet a) :
    editor.Begins event sheet a ∨ editor.TypesAt sheet a := by
  by_cases hidle : ∀ b, editor.status ≠ .editing b
  · exact .inl ⟨h, .inr hidle⟩
  · simp only [ne_eq, not_forall, not_not] at hidle
    obtain ⟨b, hediting⟩ := hidle
    obtain ⟨file, session, hfile, hedit, -⟩ := status_eq_editing_iff.1 hediting
    obtain ⟨after, hafter, htypes⟩ := h.exists_types
    cases event with
    | provide store clipboard =>
      cases hfile.symm.trans hafter
      exact .inr (reached.typesAt hfile htypes)
    | perform operation =>
      rcases doubleClick_or_types hfile hafter reached hedit htypes with rfl | hkept
      · exact .inl ⟨h, .inl rfl⟩
      · exact .inr (reached.typesAt hfile hkept)

/-! ### Runs -/

/-- The last event of a run is handled by the editor that the others lead to. -/
theorem through_concat (editor : Editor) (events : List Event) (event : Event) :
    editor.through (events ++ [event]) = (editor.through events).on event :=
  List.foldl_append

/-- A run that leads to an editor from one that types nothing. -/
structure RunsTo (start : Editor) (events : List Event) (editor : Editor) : Prop where
  /-- The first editor is reachable. -/
  reached : start.Reachable
  /-- It types nothing. -/
  idle : ∀ b, start.status ≠ .editing b
  /-- The events lead from it to the other one. -/
  through : start.through events = editor

/-- Every reachable editor is run to. -/
theorem Reachable.exists_runsTo (reached : Reachable editor) :
    ∃ start events, RunsTo start events editor := by
  induction reached with
  | start store clipboard options =>
    exact ⟨_, [], .start store clipboard options, fun _ => Status.noConfusion, rfl⟩
  | perform reached operation ih =>
    obtain ⟨start, events, hreached, hidle, rfl⟩ := ih
    exact ⟨start, events ++ [.perform operation], hreached, hidle, through_concat _ _ _⟩
  | provide reached store clipboard ih =>
    obtain ⟨start, events, hreached, hidle, rfl⟩ := ih
    exact ⟨start, events ++ [.provide store clipboard], hreached, hidle, through_concat _ _ _⟩

/-- An event of a run begins a text, which is typed at the anchor of the selection from then on, and
no other text is begun. -/
structure TypedSince (start : Editor) (before : List Event) (event : Event) (since : List Event)
    (sheet : String) (a : Address) : Prop where
  /-- The text is begun in the cell of the sheet. -/
  begins : (start.through before).Begins event sheet a
  /-- After any of the later events it is typed there. -/
  stays : ∀ part, part <+: since → (start.through (before ++ event :: part)).TypesAt sheet a
  /-- None of the later events begins a text. -/
  last : ∀ part next, part ++ [next] <+: since →
    ∀ other b, ¬ (start.through (before ++ event :: part)).Begins next other b

namespace TypedSince

variable {before since : List Event} {next : Event}

/-- The event that begins a text is the one since which it is typed. -/
theorem of_begins (h : (start.through before).Begins event sheet a) :
    TypedSince start before event [] sheet a := by
  refine ⟨h, fun part hpart => ?_, fun part next hpart => ?_⟩
  · obtain rfl := List.prefix_nil.1 hpart
    rw [through_concat]
    exact h.types
  · simp at hpart

/-- A text goes on to be typed since the event that began it, as long as no event begins another
one. -/
theorem concat (h : TypedSince start before event since sheet a)
    (htypes : (start.through (before ++ event :: (since ++ [next]))).TypesAt sheet a)
    (hnext : ∀ other b, ¬ (start.through (before ++ event :: since)).Begins next other b) :
    TypedSince start before event (since ++ [next]) sheet a := by
  refine ⟨h.begins, fun part hpart => ?_, fun part last hpart => ?_⟩
  · rcases List.prefix_concat_iff.1 hpart with rfl | hpart
    · exact htypes
    · exact h.stays part hpart
  · rcases List.prefix_concat_iff.1 hpart with heq | hpart
    · obtain ⟨rfl, hlast⟩ := List.append_inj' heq rfl
      cases hlast
      exact hnext
    · exact h.last part last hpart

end TypedSince

/-- The last text that was begun on a run is the one that is typed. -/
theorem typedSince_of_typesAt (reached : Reachable start) (hidle : ∀ b, start.status ≠ .editing b)
    (events : List Event) (h : (start.through events).TypesAt sheet a) :
    ∃ before event since, events = before ++ event :: since ∧
      TypedSince start before event since sheet a := by
  induction events using List.reverseRecOn with
  | nil => exact absurd h.status (hidle a)
  | append_singleton events event ih =>
    have hon := through_concat start events event ▸ h
    by_cases hbegins : (start.through events).Begins event sheet a
    · exact ⟨events, event, [], rfl, .of_begins hbegins⟩
    · -- the event begins no text, so the one that is typed was there before it
      have htypes := (begins_or_typesAt (reached.through events) hon).resolve_left hbegins
      obtain ⟨before, first, since, rfl, hsince⟩ := ih htypes
      refine ⟨before, first, since ++ [event], by simp, hsince.concat ?_ fun other b hother => ?_⟩
      · simpa using h
      · obtain ⟨rfl, rfl⟩ := hother.types.unique hon
        exact hbegins hother

/-- While a text is being typed, there is a selection and the cell of the text is its anchor. On
every run that leads there, whatever operations it is made of, some event has begun the text in this
cell of the sheet that is shown now, and the text has been typed there ever since. -/
theorem typed_cell_is_anchor (reached : Reachable editor) (h : editor.status = .editing a) :
    ∃ sheet, editor.TypesAt sheet a ∧ (∃ start events, RunsTo start events editor) ∧
      ∀ start events, RunsTo start events editor →
        ∃ before event since, events = before ++ event :: since ∧
          TypedSince start before event since sheet a := by
  obtain ⟨file, session, hfile, hedit, hcell⟩ := status_eq_editing_iff.1 h
  have htypes : editor.TypesAt file.active a :=
    reached.typesAt hfile ⟨rfl, by rw [hedit]; exact congrArg some hcell⟩
  refine ⟨file.active, htypes, reached.exists_runsTo, ?_⟩
  rintro start events ⟨hstart, hidle, rfl⟩
  exact typedSince_of_typesAt hstart hidle events htypes

/-- A text is begun in a cell, the selection is extended from it, and a paste and a change of sheets
fail. -/
def typedWhileDragging : List Event :=
  [.perform (.command (.pointerDown ⟨1, 1⟩ false)), .perform (.command (.typeChar '7')),
    .perform (.command (.pointerMove ⟨3, 2⟩)), .perform (.command .paste),
    .perform (.command (.setActiveSheet "Sheet2"))]

theorem typed_cell_is_anchor_typedWhileDragging :
    (newFile.through typedWhileDragging).status = .editing ⟨1, 1⟩ ∧
      ∃ sheet before event since,
        (newFile.through typedWhileDragging).TypesAt sheet ⟨1, 1⟩ ∧
        typedWhileDragging = before ++ event :: since ∧
        TypedSince newFile before event since sheet ⟨1, 1⟩ := by
  have hstatus : (newFile.through typedWhileDragging).status = .editing ⟨1, 1⟩ := by
    decide +kernel
  have hidle : newFile.status = .loaded := by decide +kernel
  obtain ⟨sheet, htypes, -, hruns⟩ :=
    typed_cell_is_anchor (newFile_reachable.through typedWhileDragging) hstatus
  obtain ⟨before, event, since, hevents, hsince⟩ := hruns newFile typedWhileDragging
    ⟨newFile_reachable, fun b => by rw [hidle]; exact Status.noConfusion, rfl⟩
  exact ⟨hstatus, sheet, before, event, since, htypes, hevents, hsince⟩

end Editor

end EnsembleDesk
