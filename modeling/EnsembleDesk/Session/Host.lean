import EnsembleDesk.Book.Format
import EnsembleDesk.Text.Bytes
/-!
# What the host provides

The editor reads and writes files, uses a clipboard, and notifies the user. `FileStore` keeps files
by the places their paths lead to; `Directory` is a store of the files of one directory.
-/

namespace EnsembleDesk

/-- Files in memory. -/
structure FileStore where
  /-- The contents of the files, by their places. -/
  files : List (FilePlace × List UInt8) := []
  /-- Whether files can be read. -/
  readable : Bool := true
  /-- Whether files can be written. -/
  writable : Bool := true
deriving DecidableEq, Inhabited

namespace FileStore

/-- The content of a file, whether or not it can be read. -/
def content? (store : FileStore) (path : String) : Option (List UInt8) :=
  store.files.lookup (filePlace path.toList)

/-- Whether there is a file. -/
def contains (store : FileStore) (path : String) : Bool := (store.content? path).isSome

/-- Reads a file. -/
def read? (store : FileStore) (path : String) : Option (List UInt8) :=
  if store.readable then store.content? path else none

/-- Reads a file as a text. -/
def readText? (store : FileStore) (path : String) : Option String :=
  (store.read? path).bind ofUtf8?

/-- Puts a file into the store. -/
def put (store : FileStore) (path : String) (content : List UInt8) : FileStore :=
  let place := filePlace path.toList
  { store with files := (place, content) :: store.files.filter fun file => file.1 != place }

/-- Writes a file; none if files cannot be written. -/
def write? (store : FileStore) (path : String) (content : List UInt8) : Option FileStore :=
  if store.writable then some (store.put path content) else none

end FileStore

/-- What a path names in a directory without subdirectories. -/
inductive DirectoryPlace where
  /-- The directory itself. -/
  | directory
  /-- A file, or the place for one. -/
  | file (name : List Char)
  /-- Nothing that is or could be there. -/
  | nowhere
deriving DecidableEq

/-- What a path names in a directory: nothing can follow the name of a file. -/
def directoryPlace (path : List Char) : DirectoryPlace :=
  if path.head? = some '/' || path.contains '\x00' then .nowhere
  else
    match (splitAtChar '/' path).dropWhile fun name => name.isEmpty || name == ['.'] with
    | [] => .directory
    | [name] => if name = ['.', '.'] then .nowhere else .file name
    | _ => .nowhere

/-- The files of a directory without subdirectories. -/
structure Directory where
  /-- The contents of the files, by their names. -/
  files : List (List Char × List UInt8) := []
deriving DecidableEq, Inhabited

namespace Directory

/-- Reads a file. -/
def read? (directory : Directory) (path : String) : Option (List UInt8) :=
  match directoryPlace path.toList with
  | .file name => directory.files.lookup name
  | _ => none

/-- Reads a file as a text. -/
def readText? (directory : Directory) (path : String) : Option String :=
  (directory.read? path).bind ofUtf8?

/-- Whether a path names the directory or a file of it. -/
def contains (directory : Directory) (path : String) : Bool :=
  directoryPlace path.toList = .directory || (directory.read? path).isSome

/-- Writes a file; none if the path is not the place for one. -/
def write? (directory : Directory) (path : String) (content : List UInt8) : Option Directory :=
  match directoryPlace path.toList with
  | .file name => some ⟨(name, content) :: directory.files.filter fun file => file.1 != name⟩
  | _ => none

end Directory

/-- The clipboard. -/
structure Clipboard where
  /-- The text on it. -/
  text : Option String := none
  /-- Whether it can be used. -/
  available : Bool := true
deriving DecidableEq, Inhabited

namespace Clipboard

/-- Reads the text on the clipboard. -/
def read? (clipboard : Clipboard) : Option String :=
  if clipboard.available then clipboard.text else none

/-- Puts a text on the clipboard; none if it cannot be used. -/
def write? (clipboard : Clipboard) (text : String) : Option Clipboard :=
  if clipboard.available then some { clipboard with text := some text } else none

end Clipboard

/-- How serious a notice is. -/
inductive NoticeLevel where
  | info
  | error
deriving DecidableEq

/-- The name of a level. -/
def NoticeLevel.name : NoticeLevel → String
  | info => "info"
  | error => "error"

/-- A message to the user. -/
structure Notice where
  /-- How serious it is. -/
  level : NoticeLevel
  /-- The message. -/
  message : String
deriving DecidableEq

end EnsembleDesk
