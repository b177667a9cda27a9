import EnsembleDesk.Session.Outcome
/-!
# Runs of the editor

An editor starts without an open file, carries out operations one after the other, and goes on
after one that was refused. Between operations the host may change the files and the clipboard.
`Editor.after` is the editor after a list of operations; `Editor.Reachable` holds of every editor
that can come about.
-/

namespace EnsembleDesk

namespace Editor

/-- The editor after operations, in order, whether they were refused or not. -/
def after (editor : Editor) (operations : List Operation) : Editor :=
  operations.foldl (fun editor operation => (editor.perform operation).2) editor

@[simp]
theorem after_nil (editor : Editor) : editor.after [] = editor := rfl

@[simp]
theorem after_cons (editor : Editor) (operation : Operation) (operations : List Operation) :
    editor.after (operation :: operations) = (editor.perform operation).2.after operations := rfl

/-- An editor that was started without an open file and has carried out operations since. -/
inductive Reachable : Editor → Prop where
  /-- The editor is started. -/
  | start (store : FileStore) (clipboard : Clipboard) (options : GridOptions) :
    Reachable { store, clipboard, options }
  /-- An operation is carried out. -/
  | perform {editor : Editor} (reached : Reachable editor) (operation : Operation) :
    Reachable (editor.perform operation).2
  /-- The host changes the files or the clipboard. -/
  | provide {editor : Editor} (reached : Reachable editor) (store : FileStore)
    (clipboard : Clipboard) : Reachable { editor with store, clipboard }

/-- Operations lead from a reachable editor to a reachable one. -/
theorem Reachable.of_after {editor : Editor} (reached : Reachable editor)
    (operations : List Operation) : Reachable (editor.after operations) := by
  induction operations generalizing editor with
  | nil => exact reached
  | cons operation operations ih => exact ih (reached.perform operation)

/-- Telling what became of a command does not change what it does. -/
@[simp]
theorem execute_snd (editor : Editor) (command : Command) :
    (editor.execute command).2 = (editor.perform (.command command)).2 := rfl

end Editor

end EnsembleDesk
